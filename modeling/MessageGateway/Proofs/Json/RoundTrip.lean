import MessageGateway.Proofs.Json.Reader

/-!
# JSON texts read back

The text of every value is read back to the value, and it is plain ASCII. Reading goes from the
inside to the outside: if every element of an array or object is read back from what is written of
it (`Json.ReadsBack`), so are all of them with commas between them up to the mark that closes them.

## Main results

* `MessageGateway.Json.readBody_intercalate` — the elements of an array or object.
* `MessageGateway.Json.parse?_render` — what was written is read back.
* `MessageGateway.Json.isPlain_of_mem_render` — what is written is plain ASCII.
-/

namespace MessageGateway

namespace Json

/-! ### Elements -/

/-- What is written starts neither with a blank nor with a mark that closes an array or object. -/
def Starts (written : List Char) : Prop :=
  ∃ c cs, written = c :: cs ∧ isBlank c = false ∧ c ≠ ']' ∧ c ≠ '\x7d'

/-- What is written of an element is read back, whatever follows it but a digit. -/
structure ReadsBack {α : Type} (read : List Char → Option (α × List Char)) (x : α)
    (written : List Char) : Prop where
  starts : Starts written
  reads : ∀ rest, Ends rest → read (written ++ rest) = some (x, rest)

theorem ReadsBack.skipBlanks {α : Type} {read : List Char → Option (α × List Char)} {x : α}
    {written : List Char} (h : ReadsBack read x written) (rest : List Char) :
    skipBlanks (written ++ rest) = written ++ rest := by
  obtain ⟨c, cs, rfl, hc, -⟩ := h.starts
  simp [Json.skipBlanks, hc]

theorem itemChars_eq : (items : List Json) →
    itemChars items = [',', ' '].intercalate (items.map chars)
  | [] => rfl
  | [item] => by simp [itemChars]
  | item :: next :: rest => by
    rw [itemChars, itemChars_eq (next :: rest)]
    simp [List.intercalate_cons_cons]

/-- A member is its name and its value. -/
def memberText (m : String × Json) : List Char :=
  quoted m.1 ++ ':' :: ' ' :: chars m.2

theorem memberChars_eq : (members : List (String × Json)) →
    memberChars members = [',', ' '].intercalate (members.map memberText)
  | [] => rfl
  | [(key, value)] => by simp [memberChars, memberText]
  | (key, value) :: next :: rest => by
    rw [memberChars, memberChars_eq (next :: rest)]
    simp [List.intercalate_cons_cons, memberText]

/-- A mark that closes an array or object is no digit, no blank and no comma. -/
private theorem closing_mark {close : Char} (h : close = ']' ∨ close = '\x7d') :
    close.isDigit = false ∧ isBlank close = false ∧ ',' ≠ close := by
  rcases h with rfl | rfl <;> decide

section Elements

variable {α : Type} {element : List Char → Option (α × List Char)} {write : α → List Char}
  {close : Char}

/-- Elements start as the first of them does. -/
theorem starts_intercalate {x : α} (xs : List α) (h : ReadsBack element x (write x)) :
    Starts ([',', ' '].intercalate ((x :: xs).map write)) := by
  obtain ⟨c, cs, hcs, hc⟩ := h.starts
  cases xs with
  | nil => exact ⟨c, cs, by simpa using hcs, hc⟩
  | cons y ys =>
    refine ⟨c, cs ++ [',', ' '] ++ [',', ' '].intercalate ((y :: ys).map write), ?_, hc⟩
    simp only [List.map_cons, List.intercalate_cons_cons, hcs, List.cons_append]

/-- Every element takes a character at least. -/
theorem length_le_intercalate : {xs : List α} → (∀ x ∈ xs, ReadsBack element x (write x)) →
    xs.length ≤ ([',', ' '].intercalate (xs.map write)).length
  | [], _ => Nat.zero_le _
  | [x], h => by
    obtain ⟨c, cs, hcs, -⟩ := (h x List.mem_cons_self).starts
    simp [hcs]
  | x :: y :: ys, h => by
    have hrest := length_le_intercalate fun z (hz : z ∈ y :: ys) => h z (List.mem_cons_of_mem _ hz)
    simp only [List.map_cons, List.intercalate_cons_cons, List.length_append,
      List.length_cons, List.length_nil] at hrest ⊢
    omega

/-- An element is not longer than all of them. -/
theorem length_le_of_mem {ls : List (List Char)} {l : List Char} (h : l ∈ ls) :
    l.length ≤ ([',', ' '].intercalate ls).length := by
  induction ls with
  | nil => cases h
  | cons l' ls ih =>
    cases ls with
    | nil => simp [List.mem_singleton.mp h]
    | cons l'' ls =>
      simp only [List.intercalate_cons_cons, List.length_append]
      rcases List.mem_cons.mp h with rfl | h
      · omega
      · have := ih h
        omega

/-- Elements with commas between them are read back up to the mark that closes them. -/
theorem readElements_intercalate (hclose : close = ']' ∨ close = '\x7d') (rest : List Char) :
    ∀ {xs : List α} {n : Nat}, xs ≠ [] → (∀ x ∈ xs, ReadsBack element x (write x)) →
      xs.length ≤ n →
      readElements element close n ([',', ' '].intercalate (xs.map write) ++ close :: rest) =
        some (xs, rest) := by
  obtain ⟨hdigit, hblank, hcomma⟩ := closing_mark hclose
  intro xs
  induction xs with
  | nil => exact fun hne => absurd rfl hne
  | cons x xs ih =>
    intro n _ hreads hlen
    obtain ⟨n, rfl⟩ : ∃ m, n = m + 1 := Nat.exists_eq_succ_of_ne_zero (by simp at hlen; omega)
    have hx := hreads x List.mem_cons_self
    cases xs with
    | nil =>
      have hread := hx.reads (close :: rest) (by simpa [Ends] using hdigit)
      simp [readElements, hread, skipBlanks, hblank]
    | cons y ys =>
      have hys := ih (n := n) (List.cons_ne_nil y ys)
        (fun z hz => hreads z (List.mem_cons_of_mem _ hz)) (Nat.le_of_succ_le_succ hlen)
      obtain ⟨c, cs, hcs, hc, -⟩ := starts_intercalate ys (hreads y (by simp))
      rw [hcs, List.cons_append] at hys
      rw [List.map_cons, List.map_cons, List.intercalate_cons_cons, ← List.map_cons, hcs]
      have hread := hx.reads (',' :: ' ' :: c :: (cs ++ close :: rest)) (by simp [Ends])
      simp only [List.append_assoc, List.cons_append, List.nil_append]
      have hblanks : skipBlanks (',' :: ' ' :: c :: (cs ++ close :: rest)) =
          ',' :: ' ' :: c :: (cs ++ close :: rest) := by
        simp [skipBlanks, isBlank]
      have hblanks' : skipBlanks (' ' :: c :: (cs ++ close :: rest)) =
          c :: (cs ++ close :: rest) := by
        simp [skipBlanks, hc, show isBlank ' ' = true from rfl]
      simp [readElements, hread, hblanks, hblanks', hcomma, hys]

/-- The elements of an array or object are read back. -/
theorem readBody_intercalate (hclose : close = ']' ∨ close = '\x7d') {xs : List α}
    (hreads : ∀ x ∈ xs, ReadsBack element x (write x)) (rest : List Char) :
    readBody element close ([',', ' '].intercalate (xs.map write) ++ close :: rest) =
      some (xs, rest) := by
  cases xs with
  | nil => simp [readBody, skipBlanks, (closing_mark hclose).2.1]
  | cons x xs =>
    obtain ⟨c, cs, hcs, hc, hne⟩ := starts_intercalate xs (hreads x List.mem_cons_self)
    have hlen : (x :: xs).length ≤ (c :: cs).length := hcs ▸ length_le_intercalate hreads
    have hclosed : c ≠ close := by
      rcases hclose with rfl | rfl
      · exact hne.1
      · exact hne.2
    have hread := readElements_intercalate (n := (cs ++ close :: rest).length + 1) hclose rest
      (List.cons_ne_nil x xs) hreads (by simp at hlen ⊢; omega)
    rw [hcs, List.cons_append] at hread ⊢
    simpa [readBody, skipBlanks, hc, hclosed] using hread

end Elements

/-! ### Values -/

/-- Every value starts with a mark, a letter, a sign or a digit. -/
theorem starts_chars (v : Json) : Starts (chars v) := by
  cases v with
  | flag b => cases b <;> exact ⟨_, _, rfl, by decide⟩
  | number n =>
    obtain ⟨c, cs, hcs, rfl | hc⟩ := exists_chars_number_eq n
    · exact ⟨_, _, hcs, by decide⟩
    · have hne {d : Char} (hd : d.isDigit = false) : c ≠ d := Integer.ne_of_isDigit hc hd
      exact ⟨_, _, hcs, by simp [isBlank, hne], hne (by decide), hne (by decide)⟩
  | text s => exact ⟨_, _, rfl, by decide⟩
  | array items => exact ⟨_, _, rfl, by decide⟩
  | object members => exact ⟨_, _, rfl, by decide⟩

/-- A member is read back when its value is. -/
theorem readsBack_member {n : Nat} {m : String × Json}
    (h : ReadsBack (readValue n) m.2 (chars m.2)) :
    ReadsBack (readMember (readValue n)) m (memberText m) := by
  refine ⟨⟨_, _, rfl, by decide⟩, fun rest hrest => ?_⟩
  have hvalue := h.reads rest hrest
  have hblanks : skipBlanks (':' :: ' ' :: (chars m.2 ++ rest)) =
      ':' :: ' ' :: (chars m.2 ++ rest) := by
    simp [skipBlanks, isBlank]
  have hblanks' : skipBlanks (' ' :: (chars m.2 ++ rest)) = chars m.2 ++ rest := by
    have := h.skipBlanks rest
    simpa [skipBlanks, show isBlank ' ' = true from rfl] using this
  simp only [memberText, quoted, List.cons_append, List.append_assoc, List.nil_append, readMember,
    readText_append, Option.bind_eq_bind, Option.bind_some, hblanks, hblanks', hvalue]
  rfl

/-- What is written of a value is read back. The induction is on the bound of the depth: what lies
in an array or object is shorter than the whole. -/
theorem readsBack_chars (n : Nat) : ∀ {v : Json}, (chars v).length ≤ n →
    ReadsBack (readValue n) v (chars v) := by
  induction n with
  | zero =>
    intro v hlen
    obtain ⟨c, cs, hcs, -⟩ := starts_chars v
    rw [hcs] at hlen
    cases hlen
  | succ n ih =>
    intro v hlen
    refine ⟨starts_chars v, fun rest hrest => ?_⟩
    cases v with
    | flag b => cases b <;> rfl
    | number m =>
      have hread := readNumber_chars m hrest
      obtain ⟨c, cs, hcs, hc⟩ := exists_chars_number_eq m
      have hne {d : Char} {ds : List Char} (hd : d ≠ '-' ∧ d.isDigit = false) :
          c :: (cs ++ rest) ≠ d :: ds := by
        intro heq
        obtain ⟨rfl, -⟩ := List.cons.inj heq
        rcases hc with hc | hc
        · exact hd.1 hc
        · exact Integer.ne_of_isDigit hc hd.2 rfl
      rw [hcs, List.cons_append] at hread ⊢
      rw [readValue, hread] <;> exact fun _ => hne (by decide)
    | text s =>
      simp only [chars, quoted, List.cons_append, List.append_assoc, List.nil_append, readValue,
        readText_append, Option.map_some]
    | array items =>
      rw [chars, itemChars_eq] at hlen ⊢
      simp only [List.cons_append, List.append_assoc, List.nil_append]
      have hitems : ∀ item ∈ items, ReadsBack (readValue n) item (chars item) := by
        intro item hitem
        have hitem' := length_le_of_mem (List.mem_map_of_mem (f := chars) hitem)
        exact ih (by simp at hlen; omega)
      rw [readValue, readBody_intercalate (.inl rfl) hitems]
      rfl
    | object members =>
      rw [chars, memberChars_eq] at hlen ⊢
      simp only [List.cons_append, List.append_assoc, List.nil_append]
      have hmembers : ∀ m ∈ members, ReadsBack (readMember (readValue n)) m (memberText m) := by
        intro m hm
        have hm' := length_le_of_mem (List.mem_map_of_mem (f := memberText) hm)
        refine readsBack_member (ih ?_)
        simp [memberText] at hlen hm'
        omega
      rw [readValue, readBody_intercalate (.inr rfl) hmembers]
      rfl

/-- **What was written is read back.** -/
theorem parse?_render (v : Json) : parse? v.render = some v := by
  have hread := readsBack_chars _ (Nat.le_refl (chars v).length)
  have hblanks := hread.skipBlanks []
  have hvalue := hread.reads [] (by simp [Ends])
  rw [List.append_nil] at hblanks hvalue
  have hend : skipBlanks [] = [] := rfl
  simp only [parse?, render, String.toList_ofList, hblanks, hvalue, Option.bind_some, hend,
    if_true]

/-! ### Plain characters -/

/-- The character is one from the space to the tilde. -/
def IsPlain (c : Char) : Prop :=
  ' ' ≤ c ∧ c ≤ '~'
deriving Decidable

private theorem isPlain_hexDigit : ∀ n < 16, IsPlain (Hex.digit n) := by
  decide

theorem isPlain_of_mem_escapeUnit (n : Nat) : ∀ c ∈ escapeUnit n, IsPlain c := by
  have hdigit (m : Nat) : IsPlain (Hex.digit (m % 16)) :=
    isPlain_hexDigit _ (Nat.mod_lt _ (by decide))
  simp only [escapeUnit, List.forall_mem_cons]
  exact ⟨by decide, by decide, hdigit _, hdigit _, hdigit _, hdigit _, List.forall_mem_nil _⟩

theorem isPlain_of_mem_escape (c : Char) : ∀ d ∈ escape c, IsPlain d := by
  have hmark {d : Char} (hd : IsPlain d) : ∀ e ∈ ['\\', d], IsPlain e :=
    List.forall_mem_cons.mpr ⟨by decide, List.forall_mem_singleton.mpr hd⟩
  unfold escape
  split_ifs with h1 h2 h3 h4 h5 h6 h7 hplain hbasic
  · exact hmark (by decide)
  · exact hmark (by decide)
  · exact hmark (by decide)
  · exact hmark (by decide)
  · exact hmark (by decide)
  · exact hmark (by decide)
  · exact hmark (by decide)
  · exact List.forall_mem_singleton.mpr hplain
  · exact isPlain_of_mem_escapeUnit _
  · exact List.forall_mem_append.mpr
      ⟨isPlain_of_mem_escapeUnit _, isPlain_of_mem_escapeUnit _⟩

theorem isPlain_of_mem_quoted (s : String) : ∀ c ∈ quoted s, IsPlain c := by
  simp only [quoted, List.cons_append, List.forall_mem_cons, List.forall_mem_append,
    List.mem_flatMap]
  refine ⟨by decide, ?_, by decide, List.forall_mem_nil _⟩
  rintro c ⟨d, -, hc⟩
  exact isPlain_of_mem_escape d c hc

theorem isPlain_of_isDigit {c : Char} (h : c.isDigit = true) : IsPlain c := by
  have hc : '0' ≤ c ∧ c ≤ '9' := by
    simpa [Char.isDigit, Char.le_def] using h
  exact ⟨Char.le_trans (by decide) hc.1, Char.le_trans hc.2 (by decide)⟩

theorem isPlain_of_mem_number (n : Int) : ∀ c ∈ chars (.number n), IsPlain c := by
  have hdigits (m : Nat) : ∀ c ∈ Nat.toDigits 10 m, IsPlain c := fun c hc =>
    isPlain_of_isDigit (Nat.isDigit_of_mem_toDigits (by decide) (by decide) hc)
  rw [chars_number]
  split
  · exact hdigits _
  · exact List.forall_mem_cons.mpr ⟨by decide, hdigits _⟩

mutual

theorem isPlain_of_mem_chars : (v : Json) → ∀ c ∈ chars v, IsPlain c
  | .flag true => by
    simp only [chars, List.forall_mem_cons]
    exact ⟨by decide, by decide, by decide, by decide, List.forall_mem_nil _⟩
  | .flag false => by
    simp only [chars, List.forall_mem_cons]
    exact ⟨by decide, by decide, by decide, by decide, by decide, List.forall_mem_nil _⟩
  | .number n => isPlain_of_mem_number n
  | .text s => isPlain_of_mem_quoted s
  | .array items => by
    simp only [chars, List.cons_append, List.forall_mem_cons, List.forall_mem_append]
    exact ⟨by decide, isPlain_of_mem_itemChars items, by decide, List.forall_mem_nil _⟩
  | .object members => by
    simp only [chars, List.cons_append, List.forall_mem_cons, List.forall_mem_append]
    exact ⟨by decide, isPlain_of_mem_memberChars members, by decide, List.forall_mem_nil _⟩

theorem isPlain_of_mem_itemChars : (items : List Json) → ∀ c ∈ itemChars items, IsPlain c
  | [] => List.forall_mem_nil _
  | [item] => isPlain_of_mem_chars item
  | item :: next :: rest => by
    simp only [itemChars, List.forall_mem_cons, List.forall_mem_append]
    exact ⟨isPlain_of_mem_chars item, by decide, by decide,
      isPlain_of_mem_itemChars (next :: rest)⟩

theorem isPlain_of_mem_memberChars :
    (members : List (String × Json)) → ∀ c ∈ memberChars members, IsPlain c
  | [] => List.forall_mem_nil _
  | [(key, value)] => by
    simp only [memberChars, List.forall_mem_cons, List.forall_mem_append]
    exact ⟨isPlain_of_mem_quoted key, by decide, by decide, isPlain_of_mem_chars value⟩
  | (key, value) :: next :: rest => by
    simp only [memberChars, List.forall_mem_cons, List.forall_mem_append]
    exact ⟨⟨isPlain_of_mem_quoted key, by decide, by decide, isPlain_of_mem_chars value⟩,
      by decide, by decide, isPlain_of_mem_memberChars (next :: rest)⟩

end

/-- What is written is plain ASCII. -/
theorem isPlain_of_mem_render (v : Json) : ∀ c ∈ v.render.toList, IsPlain c := by
  rw [render, String.toList_ofList]
  exact isPlain_of_mem_chars v

end Json

end MessageGateway
