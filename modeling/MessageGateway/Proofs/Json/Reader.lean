import Mathlib.Tactic.SplitIfs
import MessageGateway.Json.Basic
import MessageGateway.Proofs.Text.Integer

/-!
# A reader of JSON texts

`Json.parse?` reads a JSON text as any reader of them does: blanks may stand around every value and
every mark, a character of a text may be escaped in each of the ways there are, and two escapes that
are the halves of a character are joined. Numbers with a fraction or an exponent and the value
`null` are no values of the type `Json`, so texts with them are refused, as are the texts that are
no JSON.

The reader takes a piece off the front and leaves the rest. Here this is shown of numbers and of
texts: each is read back from what is written of it, in front of anything that may follow. Only a
number is not closed by a mark of its own, so what follows it must not be a digit (`Json.Ends`).

## Main definitions

* `MessageGateway.Json.parse?`.

## Main results

* `MessageGateway.Json.readNumber_chars`, `MessageGateway.Json.readText_append`.
-/

namespace MessageGateway

namespace Json

/-! ### The reader -/

/-- The blanks that may stand around values and marks. -/
def isBlank (c : Char) : Bool :=
  c = ' ' || c = '\t' || c = '\n' || c = '\r'

/-- The text behind the blanks at the front. -/
def skipBlanks (cs : List Char) : List Char :=
  cs.dropWhile isBlank

/-- The text behind a word that has to stand at the front. -/
def expect? : (word cs : List Char) → Option (List Char)
  | [], cs => some cs
  | c :: word, d :: cs => if c = d then expect? word cs else none
  | _ :: _, [] => none

/-- The number at the front. No zero may stand in front of its other digits. -/
def readNatural (cs : List Char) : Option (Nat × List Char) :=
  let digits := cs.takeWhile Char.isDigit
  if digits = [] ∨ digits.head? = some '0' ∧ digits ≠ ['0'] then none
  else some (Nat.ofDigitChars 10 digits 0, cs.dropWhile Char.isDigit)

/-- The number at the front, which may have a sign. -/
def readNumber : List Char → Option (Json × List Char)
  | '-' :: cs => (readNatural cs).map fun (n, rest) => (.number (-n), rest)
  | cs => (readNatural cs).map fun (n, rest) => (.number n, rest)

/-- What stands for a character of a text, or for half of one. -/
inductive Piece where
  /-- A character. -/
  | plain (c : Char)
  /-- A sixteen-bit number. -/
  | unit (n : Nat)

/-- The character of an escape by a letter or mark. -/
def unescape? : Char → Option Char
  | '"' => some '"'
  | '\\' => some '\\'
  | '/' => some '/'
  | 'b' => some '\x08'
  | 'f' => some '\x0c'
  | 'n' => some '\n'
  | 'r' => some '\r'
  | 't' => some '\t'
  | _ => none

/-- The number of four hexadecimal digits. -/
def unitValue? (a b c d : Char) : Option Nat := do
  let a ← Hex.digitValue? a
  let b ← Hex.digitValue? b
  let c ← Hex.digitValue? c
  let d ← Hex.digitValue? d
  return 4096 * a + 256 * b + 16 * c + d

/-- The pieces up to the quote that ends a text, and what follows the quote. -/
def readPieces : List Char → Option (List Piece × List Char)
  | [] => none
  | '"' :: rest => some ([], rest)
  | '\\' :: 'u' :: a :: b :: c :: d :: rest => do
    let n ← unitValue? a b c d
    let (ps, rest) ← readPieces rest
    return (.unit n :: ps, rest)
  | '\\' :: c :: rest => do
    let c ← unescape? c
    let (ps, rest) ← readPieces rest
    return (.plain c :: ps, rest)
  | c :: rest =>
    if c = '\\' ∨ c < ' ' then none
    else (readPieces rest).map fun (ps, rest) => (.plain c :: ps, rest)

/-- The characters of the pieces. A number that is the first half of a character is joined with the
one behind it, which has to be a second half; no other number may be half of a character. -/
def join? : List Piece → Option (List Char)
  | [] => some []
  | .plain c :: ps => (join? ps).map (c :: ·)
  | .unit n :: ps =>
    if n < 0xd800 ∨ 0xdfff < n then (join? ps).map (Char.ofNat n :: ·)
    else
      match ps with
      | .unit m :: ps =>
        if n < 0xdc00 ∧ 0xdc00 ≤ m ∧ m ≤ 0xdfff then
          (join? ps).map (Char.ofNat (0x10000 + 1024 * (n - 0xd800) + (m - 0xdc00)) :: ·)
        else none
      | _ => none

/-- The text that ends with the next quote that is not escaped, and what follows. -/
def readText (cs : List Char) : Option (String × List Char) := do
  let (ps, rest) ← readPieces cs
  let cs ← join? ps
  return (String.ofList cs, rest)

/-- The elements of an array or object that are left, up to the mark that closes it. The number
bounds how many there may be. -/
def readElements {α : Type} (element : List Char → Option (α × List Char)) (close : Char) :
    Nat → List Char → Option (List α × List Char)
  | 0, _ => none
  | n + 1, cs => do
    let (x, rest) ← element cs
    match skipBlanks rest with
    | [] => none
    | c :: rest =>
      if c = close then return ([x], rest)
      else if c = ',' then
        let (xs, rest) ← readElements element close n (skipBlanks rest)
        return (x :: xs, rest)
      else none

/-- The elements of an array or object, of which there may be none. -/
def readBody {α : Type} (element : List Char → Option (α × List Char)) (close : Char)
    (cs : List Char) : Option (List α × List Char) :=
  match skipBlanks cs with
  | [] => none
  | c :: rest =>
    if c = close then some ([], rest) else readElements element close (rest.length + 1) (c :: rest)

/-- A member of an object by the reader of its value. -/
def readMember (value : List Char → Option (Json × List Char)) :
    List Char → Option ((String × Json) × List Char)
  | '"' :: cs => do
    let (key, rest) ← readText cs
    match skipBlanks rest with
    | ':' :: rest =>
      let (v, rest) ← value (skipBlanks rest)
      return ((key, v), rest)
    | _ => none
  | _ => none

/-- The value at the front. The number bounds how deep arrays and objects may lie in each other. -/
def readValue : Nat → List Char → Option (Json × List Char)
  | 0, _ => none
  | n + 1, cs =>
    match cs with
    | '"' :: cs => (readText cs).map fun (s, rest) => (.text s, rest)
    | '[' :: cs => (readBody (readValue n) ']' cs).map fun (items, rest) => (.array items, rest)
    | '\x7b' :: cs =>
      (readBody (readMember (readValue n)) '\x7d' cs).map fun (members, rest) =>
        (.object members, rest)
    | 't' :: cs => (expect? ['r', 'u', 'e'] cs).map (.flag true, ·)
    | 'f' :: cs => (expect? ['a', 'l', 's', 'e'] cs).map (.flag false, ·)
    | cs => readNumber cs

/-- The value that a text stands for. No value in it lies deeper than it has characters. -/
def parse? (text : String) : Option Json :=
  let cs := text.toList
  (readValue cs.length (skipBlanks cs)).bind fun (v, rest) =>
    if skipBlanks rest = [] then some v else none

example : (parse? " [ \x22\\u00e9\\uD83D\\uDE00\\/\x22 ,-10, \x7b\x22a\x22:true\x7d]\n").map
    render = some "[\x22\\u00e9\\ud83d\\ude00/\x22, -10, \x7b\x22a\x22: true\x7d]" := by
  decide +kernel

example : ["01", "[1,]", "\x22\\ud83d\x22", "1.5", "null", "[1] 2"].all (parse? · |>.isNone) := by
  decide +kernel

/-! ### Numbers -/

/-- The text goes on with no digit. -/
def Ends (rest : List Char) : Prop :=
  ∀ c ∈ rest.head?, c.isDigit = false

theorem exists_toDigits_eq (n : Nat) :
    ∃ c cs, Nat.toDigits 10 n = c :: cs ∧ c.isDigit = true := by
  obtain ⟨c, cs, hcs⟩ := List.exists_cons_of_ne_nil (Nat.toDigits_ne_nil (b := 10) (n := n))
  have hmem : c ∈ Nat.toDigits 10 n := hcs ▸ List.mem_cons_self
  exact ⟨c, cs, hcs, Nat.isDigit_of_mem_toDigits (by decide) (by decide) hmem⟩

/-- The digits of a number start with a zero only if it is zero. -/
theorem eq_zero_of_head?_toDigits {n : Nat} (h : (Nat.toDigits 10 n).head? = some '0') : n = 0 := by
  induction n using Nat.strongRecOn with
  | _ n ih =>
    rcases Nat.lt_or_ge n 10 with hlt | hge
    · have hsmall : ∀ m < 10, Nat.digitChar m = '0' → m = 0 := by decide
      rw [Nat.toDigits_of_lt_base hlt] at h
      exact hsmall n hlt (Option.some.inj h)
    · obtain ⟨c, cs, hcs, -⟩ := exists_toDigits_eq (n / 10)
      rw [Nat.toDigits_of_base_le (by decide) hge, hcs] at h
      have := ih (n / 10) (by omega) (by rw [hcs]; exact h)
      omega

theorem readNatural_toDigits (n : Nat) {rest : List Char} (h : Ends rest) :
    readNatural (Nat.toDigits 10 n ++ rest) = some (n, rest) := by
  have hdigits : ∀ c ∈ Nat.toDigits 10 n, c.isDigit = true :=
    fun c hc => Nat.isDigit_of_mem_toDigits (by decide) (by decide) hc
  have htake : (Nat.toDigits 10 n ++ rest).takeWhile Char.isDigit = Nat.toDigits 10 n := by
    rw [List.takeWhile_append_of_pos hdigits]
    cases rest with
    | nil => simp
    | cons c rest => simp [h c rfl]
  have hdrop : (Nat.toDigits 10 n ++ rest).dropWhile Char.isDigit = rest := by
    rw [List.dropWhile_append_of_pos hdigits]
    cases rest with
    | nil => rfl
    | cons c rest => simp [h c rfl]
  have hzero : ¬ (Nat.toDigits 10 n = [] ∨
      (Nat.toDigits 10 n).head? = some '0' ∧ Nat.toDigits 10 n ≠ ['0']) := by
    rintro (hnil | ⟨hhead, hmore⟩)
    · exact Nat.toDigits_ne_nil hnil
    · exact hmore (by rw [eq_zero_of_head?_toDigits hhead, Nat.toDigits_zero])
  simp only [readNatural, htake, hdrop, if_neg hzero, Nat.ofDigitChars_ten_toDigits]

/-- The characters of a number are its digits, behind a sign if it is negative. -/
theorem chars_number (n : Int) : chars (.number n) =
    if 0 ≤ n then Nat.toDigits 10 n.toNat else '-' :: Nat.toDigits 10 (-n).toNat := by
  rw [chars, Int.toString_eq_repr, Int.repr_eq_if]
  split <;> simp [Nat.toList_repr]

theorem exists_chars_number_eq (n : Int) :
    ∃ c cs, chars (.number n) = c :: cs ∧ (c = '-' ∨ c.isDigit = true) := by
  rw [chars_number]
  split
  · obtain ⟨c, cs, hcs, hc⟩ := exists_toDigits_eq n.toNat
    exact ⟨c, cs, hcs, .inr hc⟩
  · exact ⟨_, _, rfl, .inl rfl⟩

theorem readNumber_chars (n : Int) {rest : List Char} (h : Ends rest) :
    readNumber (chars (.number n) ++ rest) = some (.number n, rest) := by
  rw [chars_number]
  split
  · rename_i hn
    obtain ⟨c, cs, hcs, hc⟩ := exists_toDigits_eq n.toNat
    have hread := readNatural_toDigits n.toNat h
    rw [hcs, List.cons_append] at hread ⊢
    rw [readNumber, hread]
    · simp only [Option.map_some, Int.toNat_of_nonneg hn]
    · exact fun _ heq => Integer.ne_of_isDigit hc (by decide) (List.cons.inj heq).1
  · rename_i hn
    rw [List.cons_append, readNumber, readNatural_toDigits _ h]
    simp only [Option.map_some, Int.toNat_of_nonneg (show 0 ≤ -n by omega), Int.neg_neg]

/-! ### Texts -/

/-- The characters are read as the pieces. -/
def ReadAs (written : List Char) (ps : List Piece) : Prop :=
  ∀ cs, readPieces (written ++ cs) = (readPieces cs).map fun p => (ps ++ p.1, p.2)

theorem ReadAs.append {written written' : List Char} {ps ps' : List Piece}
    (h : ReadAs written ps) (h' : ReadAs written' ps') :
    ReadAs (written ++ written') (ps ++ ps') := by
  intro cs
  rw [List.append_assoc, h, h', Option.map_map]
  simp only [Function.comp_def, List.append_assoc]

/-- An escape by a letter or mark. -/
theorem readAs_unescape {c d : Char} (h : unescape? d = some c) : ReadAs ['\\', d] [.plain c] := by
  have hu : d ≠ 'u' := by
    rintro rfl
    cases h
  intro cs
  rw [List.cons_append, List.cons_append, List.nil_append, readPieces, h]
  · cases readPieces cs <;> rfl
  · rintro _ _ _ _ _ rfl _
    exact hu rfl

/-- A character that stands for itself. -/
theorem readAs_plain {c : Char} (hlow : ' ' ≤ c) (hquote : c ≠ '"') (hslash : c ≠ '\\') :
    ReadAs [c] [.plain c] := by
  intro cs
  have hc : ¬ (c = '\\' ∨ c < ' ') := by
    rintro (h | h)
    · exact hslash h
    · exact absurd hlow (Char.not_le.mpr h)
  rw [List.cons_append, List.nil_append, readPieces, if_neg hc]
  · rfl
  · exact hquote
  · rintro _ _ _ _ _ rfl
    exact absurd rfl hslash
  · rintro _ _ rfl
    exact absurd rfl hslash

/-- An escape by number. -/
theorem readAs_escapeUnit {n : Nat} (h : n < 0x10000) : ReadAs (escapeUnit n) [.unit n] := by
  have hvalue : unitValue? (Hex.digit (n / 4096 % 16)) (Hex.digit (n / 256 % 16))
      (Hex.digit (n / 16 % 16)) (Hex.digit (n % 16)) = some n := by
    simp only [unitValue?, Hex.digitValue?_digit _ (Nat.mod_lt _ (by decide : 16 > 0)),
      Option.bind_eq_bind, Option.bind_some]
    exact congrArg some (by omega)
  intro cs
  rw [escapeUnit]
  simp only [List.cons_append, List.nil_append, readPieces, hvalue]
  cases readPieces cs <;> rfl

private theorem toNat_range (c : Char) :
    c.toNat < 0xd800 ∨ 0xdfff < c.toNat ∧ c.toNat < 0x110000 :=
  c.valid

/-- A number that is no half of a character is one. -/
theorem join?_unit (c : Char) (qs : List Piece) :
    join? (.unit c.toNat :: qs) = (join? qs).map (c :: ·) := by
  have hrange := toNat_range c
  rw [join?.eq_def]
  simp only
  rw [if_pos (by omega), Char.ofNat_toNat]

/-- Two halves of a character are joined. -/
theorem join?_halves {c : Char} (h : 0x10000 ≤ c.toNat) (qs : List Piece) :
    join? (.unit (0xd800 + (c.toNat - 0x10000) / 1024) ::
      .unit (0xdc00 + (c.toNat - 0x10000) % 1024) :: qs) = (join? qs).map (c :: ·) := by
  have hrange := toNat_range c
  have hnumber : 0x10000 + 1024 * (0xd800 + (c.toNat - 0x10000) / 1024 - 0xd800) +
      (0xdc00 + (c.toNat - 0x10000) % 1024 - 0xdc00) = c.toNat := by
    omega
  rw [join?, if_neg (by omega), if_pos (by omega), hnumber, Char.ofNat_toNat]

/-- What stands for a character in a text is read as that character. -/
theorem exists_pieces (c : Char) : ∃ ps, ReadAs (escape c) ps ∧
    ∀ qs, join? (ps ++ qs) = (join? qs).map (c :: ·) := by
  unfold escape
  split_ifs with h1 h2 h3 h4 h5 h6 h7 hplain hbasic
  · exact ⟨_, readAs_unescape (by rw [h1]; rfl), fun _ => rfl⟩
  · exact ⟨_, readAs_unescape (by rw [h2]; rfl), fun _ => rfl⟩
  · exact ⟨_, readAs_unescape (by rw [h3]; rfl), fun _ => rfl⟩
  · exact ⟨_, readAs_unescape (by rw [h4]; rfl), fun _ => rfl⟩
  · exact ⟨_, readAs_unescape (by rw [h5]; rfl), fun _ => rfl⟩
  · exact ⟨_, readAs_unescape (by rw [h6]; rfl), fun _ => rfl⟩
  · exact ⟨_, readAs_unescape (by rw [h7]; rfl), fun _ => rfl⟩
  · exact ⟨_, readAs_plain hplain.1 h1 h2, fun _ => rfl⟩
  · exact ⟨_, readAs_escapeUnit hbasic, join?_unit c⟩
  · have hrange := toNat_range c
    exact ⟨_, (readAs_escapeUnit (by omega)).append (readAs_escapeUnit (by omega)),
      join?_halves (Nat.not_lt.mp hbasic)⟩

/-- The characters of a text up to its closing quote are read back. -/
theorem readText_append (s : String) (rest : List Char) :
    readText (s.toList.flatMap escape ++ '"' :: rest) = some (s, rest) := by
  have hpieces : ∀ cs : List Char, ∃ ps,
      readPieces (cs.flatMap escape ++ '"' :: rest) = some (ps, rest) ∧ join? ps = some cs := by
    intro cs
    induction cs with
    | nil => exact ⟨[], rfl, rfl⟩
    | cons c cs ih =>
      obtain ⟨qs, hqs, hcs⟩ := ih
      obtain ⟨ps, hread, hjoin⟩ := exists_pieces c
      refine ⟨ps ++ qs, ?_, by rw [hjoin, hcs]; rfl⟩
      rw [List.flatMap_cons, List.append_assoc, hread, hqs]
      rfl
  obtain ⟨ps, hread, hjoin⟩ := hpieces s.toList
  simp only [readText, hread, hjoin, Option.bind_eq_bind, Option.bind_some, String.ofList_toList]
  rfl

end Json

end MessageGateway
