import MessageGateway.Bytes.Basic

/-!
# Keccak-256

The digest of a byte string under Keccak with a rate of 136 bytes and a digest of 32 bytes, in the
padding that came before the standard: the message is followed by a byte `01`, zeros and a last bit
`80`. The state has twenty-five lanes of eight bytes, lane `(x, y)` at place `x + 5 * y`; every
block is added to the first seventeen lanes and the state is permuted.

## Main definitions

* `MessageGateway.Keccak256.pad`, `MessageGateway.Keccak256.permute`,
  `MessageGateway.Keccak256.digest`.
-/

namespace MessageGateway

namespace Keccak256

/-- The twenty-five lanes of the state. -/
abbrev Lanes := List UInt64

/-- The lane in column `x` and row `y`, both taken modulo five. -/
def lane (s : Lanes) (x y : Nat) : UInt64 :=
  s.getD (x % 5 + 5 * (y % 5)) 0

/-- The state whose lane `(x, y)` is `f x y`. -/
def build (f : Nat → Nat → UInt64) : Lanes :=
  (List.range 25).map fun i => f (i % 5) (i / 5)

/-- A lane turned left by `n` places. -/
def rotateLeft (x n : UInt64) : UInt64 :=
  if n = 0 then x else (x <<< n) ||| (x >>> (64 - n))

/-! ### The permutation -/

/-- By how many places each lane is turned. -/
def offsets : Lanes :=
  [0, 1, 62, 28, 27,
   36, 44, 6, 55, 20,
   3, 10, 43, 25, 39,
   41, 45, 15, 21, 8,
   18, 2, 61, 56, 14]

/-- The constants of the twenty-four rounds. -/
def roundConstants : List UInt64 :=
  [0x0000000000000001, 0x0000000000008082, 0x800000000000808a, 0x8000000080008000,
   0x000000000000808b, 0x0000000080000001, 0x8000000080008081, 0x8000000000008009,
   0x000000000000008a, 0x0000000000000088, 0x0000000080008009, 0x000000008000000a,
   0x000000008000808b, 0x800000000000008b, 0x8000000000008089, 0x8000000000008003,
   0x8000000000008002, 0x8000000000000080, 0x000000000000800a, 0x800000008000000a,
   0x8000000080008081, 0x8000000000008080, 0x0000000080000001, 0x8000000080008008]

/-- The sum of a column. -/
def parity (s : Lanes) (x : Nat) : UInt64 :=
  lane s x 0 ^^^ lane s x 1 ^^^ lane s x 2 ^^^ lane s x 3 ^^^ lane s x 4

/-- To every lane the sums of the two neighbouring columns are added, the right one turned. -/
def theta (s : Lanes) : Lanes :=
  let columns := (List.range 5).map (parity s)
  let column x := columns.getD (x % 5) 0
  build fun x y => lane s x y ^^^ column (x + 4) ^^^ rotateLeft (column (x + 1)) 1

/-- The lanes are turned, and lane `(x, y)` moves to `(y, 2 * x + 3 * y)`. -/
def rhoPi (s : Lanes) : Lanes :=
  build fun x y => rotateLeft (lane s (x + 3 * y) x) (lane offsets (x + 3 * y) x)

/-- To every lane, the next lane but one of its row is added where the next lane is not set. -/
def chi (s : Lanes) : Lanes :=
  build fun x y => lane s x y ^^^ (~~~lane s (x + 1) y &&& lane s (x + 2) y)

/-- The round constant is added to the first lane. -/
def iota (k : UInt64) : Lanes → Lanes
  | [] => []
  | x :: xs => (x ^^^ k) :: xs

/-- The state after twenty-four rounds. -/
def permute (s : Lanes) : Lanes :=
  roundConstants.foldl (fun s k => iota k (chi (rhoPi (theta s)))) s

/-! ### Messages -/

/-- The number of bytes that a block brings. -/
def rate : Nat := 136

/-- The message padded to whole blocks; where one byte is missing, it holds both marks. -/
def pad (message : Bytes) : Bytes :=
  let missing := rate - message.length % rate
  if missing = 1 then message ++ [0x81]
  else message ++ 0x01 :: Bytes.zeros (missing - 2) ++ [0x80]

/-- A byte string as lanes of eight bytes, least significant first. -/
def lanes : Bytes → Lanes
  | a :: b :: c :: d :: e :: f :: g :: h :: rest =>
    UInt64.ofNat (Bytes.toNatLE [a, b, c, d, e, f, g, h]) :: lanes rest
  | _ => []

/-- The block is added to the first lanes of the state. -/
def addBlock : Lanes → Lanes → Lanes
  | x :: xs, b :: bs => (x ^^^ b) :: addBlock xs bs
  | s, _ => s

/-- The state after `count` blocks of seventeen lanes. -/
def absorb : Nat → Lanes → Lanes → Lanes
  | 0, _, s => s
  | count + 1, ls, s => absorb count (ls.drop 17) (permute (addBlock s (ls.take 17)))

/-- The thirty-two bytes of the digest of a message. -/
def digest (message : Bytes) : Bytes :=
  let ls := lanes (pad message)
  ((absorb (ls.length / 17) ls (List.replicate 25 0)).take 4).flatMap
    fun x => Bytes.ofNatLE 8 x.toNat

end Keccak256

end MessageGateway
