/-!
# Byte strings

A *byte string* is a list of bytes. Unsigned integers lie in it least significant byte first: a
natural number becomes exactly as many bytes as its width says (`Bytes.ofNatLE`), and a byte string
is read back as a natural number (`Bytes.toNatLE`).

## Main definitions

* `MessageGateway.Bytes` — byte strings.
* `MessageGateway.Bytes.ofNatLE`, `MessageGateway.Bytes.toNatLE` — little-endian numbers.
* `MessageGateway.Bytes.toNatBE` — the number whose most significant byte comes first.
* `MessageGateway.Bytes.slice` — a stretch of a byte string.
* `MessageGateway.Bytes.zeros` — padding.

## Main results

* `MessageGateway.Bytes.toNatLE_ofNatLE`, `MessageGateway.Bytes.ofNatLE_toNatLE` — writing a number
  and reading it undo each other.
-/

namespace MessageGateway

-- Numbers have one kind of power, also where monoids, which have powers too, are in scope.
attribute [instance (high), default_instance (high + 1)] instPowNat

/-- Byte strings. -/
abbrev Bytes := List UInt8

namespace Bytes

/-! ### Numbers -/

/-- The `width` bytes of `n`, least significant first; what lies above them is dropped. -/
def ofNatLE : Nat → Nat → Bytes
  | 0, _ => []
  | width + 1, n => UInt8.ofNat (n % 256) :: ofNatLE width (n / 256)

/-- The number whose bytes are given, least significant first. -/
def toNatLE : Bytes → Nat
  | [] => 0
  | b :: bs => b.toNat + 256 * toNatLE bs

/-- The number whose bytes are given, most significant first. -/
def toNatBE (bs : Bytes) : Nat :=
  toNatLE bs.reverse

@[simp] theorem length_ofNatLE (width n : Nat) : (ofNatLE width n).length = width := by
  induction width generalizing n with
  | zero => rfl
  | succ width ih => simp [ofNatLE, ih]

/-- A byte string stands for a number below the bound of its length. -/
theorem toNatLE_lt (bs : Bytes) : toNatLE bs < 256 ^ bs.length := by
  induction bs with
  | nil => simp [toNatLE]
  | cons b bs ih =>
    have hb : b.toNat < 256 := b.toNat_lt
    rw [toNatLE, List.length_cons, Nat.pow_succ]
    omega

/-- A number that fits is read back from its bytes. -/
theorem toNatLE_ofNatLE {width n : Nat} (h : n < 256 ^ width) :
    toNatLE (ofNatLE width n) = n := by
  induction width generalizing n with
  | zero => simp at h; simp [ofNatLE, toNatLE, h]
  | succ width ih =>
    have hdiv : n / 256 < 256 ^ width := by
      rw [Nat.pow_succ, Nat.mul_comm] at h
      exact Nat.div_lt_of_lt_mul h
    have hbyte : (UInt8.ofNat (n % 256)).toNat = n % 256 := by
      rw [UInt8.toNat_ofNat']
      omega
    rw [ofNatLE, toNatLE, ih hdiv, hbyte]
    omega

/-- The bytes of the number that a byte string stands for are that byte string. -/
theorem ofNatLE_toNatLE (bs : Bytes) : ofNatLE bs.length (toNatLE bs) = bs := by
  induction bs with
  | nil => rfl
  | cons b bs ih =>
    have hb : b.toNat < 256 := b.toNat_lt
    have hmod : (b.toNat + 256 * toNatLE bs) % 256 = b.toNat := by omega
    have hdiv : (b.toNat + 256 * toNatLE bs) / 256 = toNatLE bs := by omega
    rw [List.length_cons, toNatLE, ofNatLE, hmod, hdiv, ih, UInt8.ofNat_toNat]

/-! ### Stretches -/

/-- The `size` bytes from `start` on, fewer where the byte string ends before. -/
def slice (bs : Bytes) (start size : Nat) : Bytes :=
  (bs.drop start).take size

/-- A byte string between two others is the stretch behind the first. -/
theorem slice_append (before bs after : Bytes) :
    (before ++ bs ++ after).slice before.length bs.length = bs := by
  simp [slice, List.append_assoc]

/-- A byte string of `n` zeros. -/
def zeros (n : Nat) : Bytes :=
  List.replicate n 0

end Bytes

end MessageGateway
