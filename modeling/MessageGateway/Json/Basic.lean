import MessageGateway.Bytes.Hex

/-!
# JSON values and their text

The values that records are shown as: flags, numbers, texts, arrays and objects. An object keeps
its members in order. The text of a value (`Json.render`) is plain ASCII on one line: a comma or
colon is followed by a space, and a character outside the range from the space to the tilde is
written by its number, in two surrogate halves where it has more than sixteen bits.

## Main definitions

* `MessageGateway.Json`, `MessageGateway.Json.render`.
-/

namespace MessageGateway

/-- A JSON value. -/
inductive Json where
  | flag (b : Bool)
  | number (n : Int)
  | text (s : String)
  | array (items : List Json)
  | object (members : List (String × Json))

namespace Json

/-! ### Texts -/

/-- A sixteen-bit number as an escape of four hexadecimal digits. -/
def escapeUnit (n : Nat) : List Char :=
  ['\\', 'u', Hex.digit (n / 4096 % 16), Hex.digit (n / 256 % 16), Hex.digit (n / 16 % 16),
    Hex.digit (n % 16)]

/-- A character as it stands in the text of a JSON text. -/
def escape (c : Char) : List Char :=
  if c = '"' then ['\\', '"']
  else if c = '\\' then ['\\', '\\']
  else if c = '\n' then ['\\', 'n']
  else if c = '\r' then ['\\', 'r']
  else if c = '\t' then ['\\', 't']
  else if c = '\x08' then ['\\', 'b']
  else if c = '\x0c' then ['\\', 'f']
  else if ' ' ≤ c ∧ c ≤ '~' then [c]
  else if c.toNat < 0x10000 then escapeUnit c.toNat
  else
    escapeUnit (0xd800 + (c.toNat - 0x10000) / 1024) ++
      escapeUnit (0xdc00 + (c.toNat - 0x10000) % 1024)

/-- A text between quotes. -/
def quoted (s : String) : List Char :=
  '"' :: s.toList.flatMap escape ++ ['"']

/-! ### Values -/

mutual

/-- The characters of a value. -/
def chars : Json → List Char
  | .flag true => ['t', 'r', 'u', 'e']
  | .flag false => ['f', 'a', 'l', 's', 'e']
  | .number n => (toString n).toList
  | .text s => quoted s
  | .array items => '[' :: itemChars items ++ [']']
  | .object members => '\x7b' :: memberChars members ++ ['\x7d']

/-- The characters of the items of an array. -/
def itemChars : List Json → List Char
  | [] => []
  | [item] => chars item
  | item :: next :: rest => chars item ++ ',' :: ' ' :: itemChars (next :: rest)

/-- The characters of the members of an object. -/
def memberChars : List (String × Json) → List Char
  | [] => []
  | [(key, value)] => quoted key ++ ':' :: ' ' :: chars value
  | (key, value) :: next :: rest =>
    quoted key ++ ':' :: ' ' :: chars value ++ ',' :: ' ' :: memberChars (next :: rest)

end

/-- The text of a value. -/
def render (value : Json) : String :=
  String.ofList value.chars

/-! ### Examples -/

example : (object [("id", .text "7\u007f"), ("ok", .flag true)]).render =
    "\x7b\x22id\x22: \x227\\u007f\x22, \x22ok\x22: true\x7d" := by decide +kernel

example : (array [.text "😀", .number (-1)]).render =
    "[\x22\\ud83d\\ude00\x22, -1]" := by decide +kernel

end Json

end MessageGateway
