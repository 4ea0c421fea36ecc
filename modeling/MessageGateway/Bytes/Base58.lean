import MessageGateway.Bytes.Basic
import MessageGateway.Bytes.Radix

/-!
# Base-58 text

Base 58 writes a byte string as a number, most significant byte first, over an alphabet without the
look-alikes `0`, `O`, `I` and `l`. Leading zero bytes, which the number does not show, become one
`1` each (`Base58.encode`). Read back, every leading `1` is a zero byte, and the rest is the
shortest byte string of its number (`Base58.decode?`).

## Main definitions

* `MessageGateway.Base58.encode`, `MessageGateway.Base58.decode?`.
-/

namespace MessageGateway

namespace Base58

/-- The fifty-eight digits, in order of their values. -/
def alphabet : List Char :=
  "123456789ABCDEFGHJKLMNPQRSTUVWXYZabcdefghijkmnopqrstuvwxyz".toList

/-- The digit of a number below fifty-eight. -/
def digit (n : Nat) : Char :=
  alphabet.getD n '1'

/-- The number that a digit stands for. -/
def digitValue? (c : Char) : Option Nat :=
  alphabet.idxOf? c

/-- The text of a byte string. A byte needs less than two digits, so twice as many digits as there
are bytes is room enough. -/
def encode (bs : Bytes) : String :=
  let zeros := bs.takeWhile (· == 0)
  let digits := Radix.digits 58 (2 * bs.length) bs.toNatBE
  String.ofList (List.replicate zeros.length '1' ++ digits.reverse.map digit)

/-- The byte string of a text; none where a character is no digit. A digit needs less than one
byte. -/
def decode? (text : String) : Option Bytes :=
  let cs := text.toList
  let ones := cs.takeWhile (· == '1')
  (cs.mapM digitValue?).map fun values =>
    let bytes := Radix.digits 256 cs.length (Radix.value 58 values.reverse)
    Bytes.zeros ones.length ++ bytes.reverse.map UInt8.ofNat

end Base58

end MessageGateway
