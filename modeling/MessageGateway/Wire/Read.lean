import MessageGateway.Wire.Bounds
import MessageGateway.Wire.Shape

/-!
# Reading fields

A field is read at an offset of a buffer and gives its value and the offset behind it. Every read
asks for its bytes first (`ensureAvailable`). A stretch behind a count is two reads: the count,
reported under the field's name with `.length`, and the bytes. A list is a read of the count,
reported with `.count`, one request for all elements at once, and the reads of the elements, which
are numbered in square brackets.

Since a read that does not fit is refused, what is read has the size that was asked for, so it is a
value that its shape can hold (`Shape.fits_of_read`).

## Main definitions

* `MessageGateway.readBytes`, `MessageGateway.readNumber` — the reads that all others consist of.
* `MessageGateway.readCount`, `MessageGateway.readElements` — lists.
* `MessageGateway.Shape.read` — a field of any shape.

## Main results

* `MessageGateway.Shape.fits_of_read`.
-/

namespace MessageGateway

/-- The bytes at an offset. -/
def readBytes (buffer : Bytes) (offset : Int) (size : Nat) (field : String) :
    Except OutOfBounds (Bytes × Int) := do
  ensureAvailable buffer offset size field
  return (buffer.slice offset.toNat size, offset + size)

/-- The number of the given width at an offset. -/
def readNumber (buffer : Bytes) (offset : Int) (width : Nat) (field : String) :
    Except OutOfBounds (Nat × Int) := do
  let (bytes, next) ← readBytes buffer offset width field
  return (bytes.toNatLE, next)

/-- The flag at an offset; every byte but zero sets it. -/
def readFlag (buffer : Bytes) (offset : Int) (field : String) :
    Except OutOfBounds (Bool × Int) := do
  let (n, next) ← readNumber buffer offset 1 field
  return (n != 0, next)

/-- The stretch of bytes behind its length. -/
def readBlob (buffer : Bytes) (offset : Int) (field : String) :
    Except OutOfBounds (Bytes × Int) := do
  let (size, next) ← readNumber buffer offset 4 (field ++ ".length")
  readBytes buffer next size field

/-! ### Lists -/

/-- The count of a list, of whose elements all are available. -/
def readCount (buffer : Bytes) (offset : Int) (elementSize : Nat) (field : String) :
    Except OutOfBounds (Nat × Int) := do
  let (count, next) ← readNumber buffer offset 4 (field ++ ".count")
  ensureAvailable buffer next (count * elementSize) field
  return (count, next)

/-- As many elements as `count` says, numbered from `index` on. -/
def readElements {α : Type} (read : Nat → Int → Except OutOfBounds (α × Int)) :
    (count index : Nat) → (offset : Int) → Except OutOfBounds (List α × Int)
  | 0, _, offset => .ok ([], offset)
  | count + 1, index, offset => do
    let (value, next) ← read index offset
    let (values, last) ← readElements read count (index + 1) next
    return (value :: values, last)

/-- The name of an element of a list. -/
def elementName (field : String) (index : Nat) : String :=
  s!"{field}[{index}]"

/-- The list of public keys at an offset. -/
def readKeys (buffer : Bytes) (offset : Int) (field : String) :
    Except OutOfBounds (List Bytes × Int) := do
  let (count, next) ← readCount buffer offset keySize field
  readElements (fun i o => readBytes buffer o keySize (elementName field i)) count 0 next

/-- The signature and its signer's public key at an offset. -/
def readSignature (buffer : Bytes) (offset : Int) (field : String) :
    Except OutOfBounds ((Bytes × Bytes) × Int) := do
  let (signature, next) ← readBytes buffer offset signatureSize (field ++ ".signature")
  let (signer, last) ← readBytes buffer next keySize (field ++ ".signer")
  return ((signature, signer), last)

/-- The list of signatures at an offset. -/
def readSignatures (buffer : Bytes) (offset : Int) (field : String) :
    Except OutOfBounds (List (Bytes × Bytes) × Int) := do
  let (count, next) ← readCount buffer offset (signatureSize + keySize) field
  readElements (fun i o => readSignature buffer o (elementName field i)) count 0 next

/-! ### All shapes -/

/-- The field of the given shape at an offset, and the offset behind it. -/
def Shape.read (buffer : Bytes) (offset : Int) (field : String) :
    (s : Shape) → Except OutOfBounds (s.Value × Int)
  | .number width => readNumber buffer offset width field
  | .flag => readFlag buffer offset field
  | .fixed size => readBytes buffer offset size field
  | .key => readBytes buffer offset keySize field
  | .blob => readBlob buffer offset field
  | .keys => readKeys buffer offset field
  | .signatures => readSignatures buffer offset field

/-! ### What is read fits -/

theorem bind_eq_ok_iff {ε α β : Type} {x : Except ε α} {f : α → Except ε β} {b : β} :
    x >>= f = .ok b ↔ ∃ a, x = .ok a ∧ f a = .ok b := by
  cases x <;> simp [bind, Except.bind]

section Fits

variable {buffer : Bytes} {offset next : Int} {size : Nat} {field : String}

theorem length_of_readBytes {bs : Bytes}
    (h : readBytes buffer offset size field = .ok (bs, next)) : bs.length = size := by
  obtain ⟨⟨⟩, hensure, hbytes⟩ := bind_eq_ok_iff.mp h
  obtain ⟨hoffset, hroom⟩ := ensureAvailable_eq_ok_iff.mp hensure
  obtain ⟨rfl, -⟩ := Prod.mk.inj (Except.ok.inj hbytes)
  rw [Bytes.slice, List.length_take, List.length_drop]
  omega

theorem lt_of_readNumber {n : Nat} (h : readNumber buffer offset size field = .ok (n, next)) :
    n < 256 ^ size := by
  obtain ⟨⟨bs, _⟩, hbytes, hn⟩ := bind_eq_ok_iff.mp h
  obtain ⟨rfl, -⟩ := Prod.mk.inj (Except.ok.inj hn)
  rw [← length_of_readBytes hbytes]
  exact Bytes.toNatLE_lt bs

theorem length_of_readBlob {bs : Bytes} (h : readBlob buffer offset field = .ok (bs, next)) :
    bs.length < 256 ^ 4 := by
  obtain ⟨⟨n, _⟩, hn, hbytes⟩ := bind_eq_ok_iff.mp h
  rw [length_of_readBytes hbytes]
  exact lt_of_readNumber hn

theorem forall_of_readElements {α : Type} {fits : α → Prop}
    {read : Nat → Int → Except OutOfBounds (α × Int)}
    (hread : ∀ i o v next, read i o = .ok (v, next) → fits v) {count index : Nat} {vs : List α}
    (h : readElements read count index offset = .ok (vs, next)) :
    vs.length = count ∧ ∀ v ∈ vs, fits v := by
  induction count generalizing index offset vs with
  | zero =>
    obtain ⟨rfl, -⟩ := Prod.mk.inj (Except.ok.inj h)
    exact ⟨rfl, nofun⟩
  | succ count ih =>
    obtain ⟨⟨v, o⟩, hv, hrest⟩ := bind_eq_ok_iff.mp h
    obtain ⟨⟨ws, last⟩, hws, hvs⟩ := bind_eq_ok_iff.mp hrest
    obtain ⟨rfl, rfl⟩ := Prod.mk.inj (Except.ok.inj hvs)
    obtain ⟨hlen, hall⟩ := ih hws
    exact ⟨congrArg Nat.succ hlen, List.forall_mem_cons.mpr ⟨hread _ _ _ _ hv, hall⟩⟩

/-- A list has as many elements as its count, which fits into four bytes. -/
theorem forall_of_readCount {α : Type} {fits : α → Prop}
    {read : Nat → Int → Except OutOfBounds (α × Int)}
    (hread : ∀ i o v next, read i o = .ok (v, next) → fits v) {vs : List α}
    (h : (readCount buffer offset size field >>= fun p => readElements read p.1 0 p.2) =
      .ok (vs, next)) : vs.length < 256 ^ 4 ∧ ∀ v ∈ vs, fits v := by
  obtain ⟨⟨count, o⟩, hcount, helements⟩ := bind_eq_ok_iff.mp h
  obtain ⟨hlen, hall⟩ := forall_of_readElements hread helements
  obtain ⟨⟨n, _⟩, hn, hrest⟩ := bind_eq_ok_iff.mp hcount
  obtain ⟨⟨⟩, -, hpair⟩ := bind_eq_ok_iff.mp hrest
  obtain ⟨rfl, -⟩ := Prod.mk.inj (Except.ok.inj hpair)
  exact ⟨hlen ▸ lt_of_readNumber hn, hall⟩

theorem lengths_of_readSignature {e : Bytes × Bytes}
    (h : readSignature buffer offset field = .ok (e, next)) :
    e.1.length = signatureSize ∧ e.2.length = keySize := by
  obtain ⟨⟨signature, _⟩, hsignature, hrest⟩ := bind_eq_ok_iff.mp h
  obtain ⟨⟨signer, _⟩, hsigner, hpair⟩ := bind_eq_ok_iff.mp hrest
  obtain ⟨rfl, -⟩ := Prod.mk.inj (Except.ok.inj hpair)
  exact ⟨length_of_readBytes hsignature, length_of_readBytes hsigner⟩

/-- What is read of a shape is a value that it can hold. -/
theorem Shape.fits_of_read : (s : Shape) → {v : s.Value} →
    s.read buffer offset field = .ok (v, next) → s.Fits v
  | .number _, _, h => lt_of_readNumber h
  | .flag, _, _ => trivial
  | .fixed _, _, h => length_of_readBytes h
  | .key, _, h => length_of_readBytes h
  | .blob, _, h => length_of_readBlob h
  | .keys, _, h => forall_of_readCount (fun _ _ _ _ => length_of_readBytes) h
  | .signatures, _, h => forall_of_readCount (fun _ _ _ _ => lengths_of_readSignature) h

end Fits
end MessageGateway
