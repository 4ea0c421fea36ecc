import Mathlib
import MessageGateway.Text.Utf8

/-!
# Bytes read as text

Which byte strings are UTF-8, and what becomes of the bytes that are not. `Utf8.sequences` is the
table of the byte sequences that are a character: no overlong form, no surrogate and nothing above
the last character is among them. `Utf8.Renders` reads a byte string from left to right against
that table: a sequence at the front gives its character; where none stands there, the maximal
subpart at the front gives one replacement character, and reading goes on behind it.

The reader of one byte after the other agrees with that reading on every byte string. What carries
the proof is `Utf8.Expects`: in the midst of a character, the bytes that complete the ones read so
far to a sequence are those in the ranges of the state, and the bits of the state, with those of
the bytes that come, are the number of the character.

## Main definitions

* `MessageGateway.Utf8.IsSequence`, `MessageGateway.Utf8.IsMaximalSubpart`.
* `MessageGateway.Utf8.Renders`, `MessageGateway.Utf8.WellFormed`.

## Main results

* `MessageGateway.Utf8.decode_faithful`: what is read, and that text in front of any bytes and
  well-formed bytes survive.
-/

namespace MessageGateway

namespace Utf8

/-! ### The sequences that are a character -/

/-- The bytes from a least to a greatest one. -/
structure ByteRange where
  low : Nat
  high : Nat
deriving DecidableEq

/-- A byte lies in a range. -/
def ByteRange.Has (r : ByteRange) (b : UInt8) : Prop :=
  r.low ≤ b.toNat ∧ b.toNat ≤ r.high

/-- The bytes behind the second one of a sequence, and most second ones. -/
def continuation : ByteRange :=
  ⟨0x80, 0xbf⟩

/-- The sequences of bytes that are a character, by the ranges of their bytes. -/
def sequences : List (List ByteRange) :=
  [[⟨0x00, 0x7f⟩],
   [⟨0xc2, 0xdf⟩, continuation],
   [⟨0xe0, 0xe0⟩, ⟨0xa0, 0xbf⟩, continuation],
   [⟨0xe1, 0xec⟩, continuation, continuation],
   [⟨0xed, 0xed⟩, ⟨0x80, 0x9f⟩, continuation],
   [⟨0xee, 0xef⟩, continuation, continuation],
   [⟨0xf0, 0xf0⟩, ⟨0x90, 0xbf⟩, continuation, continuation],
   [⟨0xf1, 0xf3⟩, continuation, continuation, continuation],
   [⟨0xf4, 0xf4⟩, ⟨0x80, 0x8f⟩, continuation, continuation]]

/-- The bytes lie in the ranges, one in each. -/
def Matches (bs : Bytes) (rs : List ByteRange) : Prop :=
  List.Forall₂ (fun b r => r.Has b) bs rs

/-- The bytes are one character. -/
def IsSequence (bs : Bytes) : Prop :=
  ∃ rs ∈ sequences, Matches bs rs

/-- The bytes begin a character. -/
def IsStart (bs : Bytes) : Prop :=
  bs ≠ [] ∧ ∃ rest, IsSequence (bs ++ rest)

/-- Of the bytes at the front that begin a character, the most; a single byte where none do. -/
structure IsMaximalSubpart (sub bs : Bytes) : Prop where
  atFront : sub <+: bs
  startOrByte : IsStart sub ∨ sub.length = 1
  maximal : ∀ other, other <+: bs → IsStart other ∨ other.length = 1 → other.length ≤ sub.length

/-- The characters of a byte string, read from left to right. -/
inductive Renders : Bytes → List Char → Prop
  | nil : Renders [] []
  /-- A sequence at the front is the character whose bytes it is. -/
  | character {seq bs : Bytes} {c : Char} {cs : List Char} (hseq : IsSequence seq)
      (hc : String.utf8EncodeChar c = seq) (h : Renders bs cs) : Renders (seq ++ bs) (c :: cs)
  /-- Where no sequence stands at the front, the maximal subpart there is replaced. -/
  | replaced {sub bs : Bytes} {cs : List Char}
      (hnone : ∀ seq, IsSequence seq → ¬ seq <+: sub ++ bs)
      (hsub : IsMaximalSubpart sub (sub ++ bs)) (h : Renders bs cs) :
      Renders (sub ++ bs) (replacement :: cs)

/-- The bytes are sequences one after the other. -/
def WellFormed (bs : Bytes) : Prop :=
  ∃ seqs : List Bytes, (∀ seq ∈ seqs, IsSequence seq) ∧ bs = seqs.flatten

@[simp] theorem matches_nil_iff {bs : Bytes} : Matches bs [] ↔ bs = [] :=
  List.forall₂_nil_right_iff

theorem matches_cons_iff {bs : Bytes} {r : ByteRange} {rs : List ByteRange} :
    Matches bs (r :: rs) ↔ ∃ b bs', r.Has b ∧ Matches bs' rs ∧ bs = b :: bs' :=
  List.forall₂_cons_right_iff

@[simp] theorem matches_cons_cons_iff {b : UInt8} {bs : Bytes} {r : ByteRange}
    {rs : List ByteRange} : Matches (b :: bs) (r :: rs) ↔ r.Has b ∧ Matches bs rs :=
  List.forall₂_cons

theorem not_isSequence_nil : ¬ IsSequence [] := by
  rintro ⟨rs, hmem, hnil⟩
  cases hnil
  exact absurd hmem (by simp [sequences])

/-- The ranges of a sequence's first byte are disjoint. -/
private theorem sequences_disjoint : ∀ row ∈ sequences, ∀ row' ∈ sequences,
    ∀ r ∈ row.head?, ∀ r' ∈ row'.head?, r.low ≤ r'.high → r'.low ≤ r.high → row = row' := by
  decide

/-- The first byte of a sequence says what the ranges of the others are. -/
theorem isSequence_cons_iff {b : UInt8} {bs : Bytes} {r : ByteRange} {rs : List ByteRange}
    (hrow : r :: rs ∈ sequences) (hb : r.Has b) : IsSequence (b :: bs) ↔ Matches bs rs := by
  constructor
  · rintro ⟨row, hrow', hmatches⟩
    cases hmatches with
    | cons hb' hbs =>
      have hsame := sequences_disjoint _ hrow _ hrow' _ rfl _ rfl
        (hb.1.trans hb'.2) (hb'.1.trans hb.2)
      cases hsame
      exact hbs
  · exact fun h => ⟨_, hrow, .cons hb h⟩

/-- A first byte in none of the ranges begins no character. -/
theorem not_isStart_singleton {b : UInt8}
    (h : 0x80 ≤ b.toNat ∧ b.toNat ≤ 0xc1 ∨ 0xf5 ≤ b.toNat) : ¬ IsStart [b] := by
  rintro ⟨-, rest, row, hrow, hmatches⟩
  cases hmatches with
  | cons hb _ =>
    simp only [sequences, List.mem_cons, List.cons.injEq, List.not_mem_nil, or_false] at hrow
    unfold ByteRange.Has at hb
    rcases hrow with ⟨rfl, -⟩ | ⟨rfl, -⟩ | ⟨rfl, -⟩ | ⟨rfl, -⟩ | ⟨rfl, -⟩ | ⟨rfl, -⟩ | ⟨rfl, -⟩ |
      ⟨rfl, -⟩ | ⟨rfl, -⟩ <;> simp only at hb <;> omega

/-! ### The bytes of a character -/

theorem utf8EncodeChar_injective {c d : Char}
    (h : String.utf8EncodeChar c = String.utf8EncodeChar d) : c = d := by
  have hc := ByteArray.utf8DecodeChar?_utf8EncodeChar_append (b := .empty) (c := c)
  rw [h, ByteArray.utf8DecodeChar?_utf8EncodeChar_append] at hc
  exact (Option.some.inj hc).symm

private theorem val_ofNat {n : Nat} (h : n.isValidChar) : (Char.ofNat n).val.toNat = n := by
  have := Char.toNat_ofNat n
  rwa [if_pos h] at this

private theorem ofNat_eq {n : Nat} {b : UInt8} (h : n = b.toNat) : UInt8.ofNat n = b := by
  rw [h, UInt8.ofNat_toNat]

/-- A byte below `0x80` is the character of its number. -/
theorem utf8EncodeChar_one {a : UInt8} (ha : a.toNat ≤ 0x7f) :
    String.utf8EncodeChar (Char.ofNat a.toNat) = [a] := by
  have hn := val_ofNat (n := a.toNat) (.inl (by omega))
  simp only [String.utf8EncodeChar, hn]
  rw [if_pos ha, ofNat_eq rfl]

/-- The bits so far with those of the bytes that come. -/
def join (bits : Nat) (bs : Bytes) : Nat :=
  bs.foldl (fun bits b => 64 * bits + b.toNat % 64) bits

/-- Two bytes are the character of their five and six bits. -/
theorem utf8EncodeChar_two {a : UInt8} {rest : Bytes} (ha : 0xc2 ≤ a.toNat ∧ a.toNat ≤ 0xdf)
    (hrest : Matches rest [continuation]) :
    String.utf8EncodeChar (Char.ofNat (join (a.toNat - 0xc0) rest)) = a :: rest := by
  obtain ⟨b, _, hb, hnil, rfl⟩ := matches_cons_iff.mp hrest
  obtain rfl := matches_nil_iff.mp hnil
  simp only [ByteRange.Has, continuation, join, List.foldl_cons, List.foldl_nil] at hb ⊢
  generalize hn : 64 * (a.toNat - 0xc0) + b.toNat % 64 = n
  have hval := val_ofNat (n := n) (.inl (by omega))
  simp only [String.utf8EncodeChar, hval]
  rw [if_neg (by omega), if_pos (by omega), ofNat_eq (b := a) (by omega),
    ofNat_eq (b := b) (by omega)]

/-- Three bytes are the character of their four, six and six bits. -/
theorem utf8EncodeChar_three {a : UInt8} {rest : Bytes} {bits low high : Nat}
    (hbits : a.toNat = 0xe0 + bits ∧ bits ≤ 0xf) (hrange : 0x80 ≤ low ∧ high ≤ 0xbf)
    (hlong : bits = 0 → 0xa0 ≤ low) (hsurrogate : bits = 0xd → high ≤ 0x9f)
    (hrest : Matches rest [⟨low, high⟩, continuation]) :
    String.utf8EncodeChar (Char.ofNat (join bits rest)) = a :: rest := by
  obtain ⟨b, _, hb, hrest', rfl⟩ := matches_cons_iff.mp hrest
  obtain ⟨c, _, hc, hnil, rfl⟩ := matches_cons_iff.mp hrest'
  obtain rfl := matches_nil_iff.mp hnil
  simp only [ByteRange.Has, continuation, join, List.foldl_cons, List.foldl_nil] at hb hc ⊢
  generalize hn : 64 * (64 * bits + b.toNat % 64) + c.toNat % 64 = n
  have hval := val_ofNat (n := n) (by unfold Nat.isValidChar; omega)
  simp only [String.utf8EncodeChar, hval]
  rw [if_neg (by omega), if_neg (by omega), if_pos (by omega), ofNat_eq (b := a) (by omega),
    ofNat_eq (b := b) (by omega), ofNat_eq (b := c) (by omega)]

/-- Four bytes are the character of their three, six, six and six bits. -/
theorem utf8EncodeChar_four {a : UInt8} {rest : Bytes} {bits low high : Nat}
    (hbits : a.toNat = 0xf0 + bits ∧ bits ≤ 4) (hrange : 0x80 ≤ low ∧ high ≤ 0xbf)
    (hlong : bits = 0 → 0x90 ≤ low) (hlast : bits = 4 → high ≤ 0x8f)
    (hrest : Matches rest [⟨low, high⟩, continuation, continuation]) :
    String.utf8EncodeChar (Char.ofNat (join bits rest)) = a :: rest := by
  obtain ⟨b, _, hb, hrest', rfl⟩ := matches_cons_iff.mp hrest
  obtain ⟨c, _, hc, hrest'', rfl⟩ := matches_cons_iff.mp hrest'
  obtain ⟨d, _, hd, hnil, rfl⟩ := matches_cons_iff.mp hrest''
  obtain rfl := matches_nil_iff.mp hnil
  simp only [ByteRange.Has, continuation, join, List.foldl_cons, List.foldl_nil] at hb hc hd ⊢
  generalize hn : 64 * (64 * (64 * bits + b.toNat % 64) + c.toNat % 64) + d.toNat % 64 = n
  have hval := val_ofNat (n := n) (by unfold Nat.isValidChar; omega)
  simp only [String.utf8EncodeChar, hval]
  rw [if_neg (by omega), if_neg (by omega), if_neg (by omega), ofNat_eq (b := a) (by omega),
    ofNat_eq (b := b) (by omega), ofNat_eq (b := c) (by omega), ofNat_eq (b := d) (by omega)]

/-- The bytes of every character are a sequence. -/
theorem isSequence_utf8EncodeChar (c : Char) : IsSequence (String.utf8EncodeChar c) := by
  have hvalid : c.val.toNat < 0xd800 ∨ 0xdfff < c.val.toNat ∧ c.val.toNat < 0x110000 := c.valid
  simp only [String.utf8EncodeChar]
  generalize c.val.toNat = n at *
  simp only [IsSequence, sequences, List.mem_cons, List.not_mem_nil, or_false, exists_eq_or_imp,
    exists_eq_left]
  split_ifs <;>
    simp [Matches, ByteRange.Has, continuation] <;> omega

/-! ### Sequences at the front -/

/-- No sequence goes on to be another one. -/
theorem eq_of_prefix_of_isSequence {seq other : Bytes} (hseq : IsSequence seq)
    (hother : IsSequence other) (hpre : seq <+: other) : seq = other := by
  obtain ⟨row, hrow, hmatches⟩ := hseq
  cases hmatches with
  | nil => exact absurd hrow (by simp [sequences])
  | cons hb hbs =>
    obtain ⟨rest, rfl⟩ := hpre
    have hwhole := (isSequence_cons_iff hrow hb).mp hother
    exact List.IsPrefix.eq_of_length ⟨rest, rfl⟩
      (by simpa using hbs.length_eq.trans hwhole.length_eq.symm)

/-- At most one sequence stands at the front. -/
theorem isSequence_prefix_unique {seq other bs : Bytes} (hseq : IsSequence seq)
    (hother : IsSequence other) (hs : seq <+: bs) (ho : other <+: bs) : seq = other := by
  rcases List.prefix_or_prefix_of_prefix hs ho with h | h
  · exact eq_of_prefix_of_isSequence hseq hother h
  · exact (eq_of_prefix_of_isSequence hother hseq h).symm

theorem IsMaximalSubpart.ne_nil {sub bs : Bytes} (h : IsMaximalSubpart sub bs) : sub ≠ [] := by
  rcases h.startOrByte with hstart | hbyte
  · exact hstart.1
  · rintro rfl
    cases hbyte

theorem IsMaximalSubpart.unique {sub sub' bs : Bytes} (h : IsMaximalSubpart sub bs)
    (h' : IsMaximalSubpart sub' bs) : sub = sub' := by
  have hlength := Nat.le_antisymm (h'.maximal _ h.atFront h.startOrByte)
    (h.maximal _ h'.atFront h'.startOrByte)
  obtain ⟨rest, rfl⟩ := h.atFront
  obtain ⟨rest', hrest⟩ := h'.atFront
  exact (List.append_inj hrest hlength.symm).1.symm

/-- The reading from left to right has one outcome. -/
theorem Renders.unique {bs : Bytes} {cs cs' : List Char} (h : Renders bs cs)
    (h' : Renders bs cs') : cs = cs' := by
  induction h generalizing cs' with
  | nil =>
    generalize hbs : ([] : Bytes) = bs at h'
    cases h' with
    | nil => rfl
    | character hseq =>
      obtain ⟨rfl, -⟩ := List.append_eq_nil_iff.mp hbs.symm
      exact absurd hseq not_isSequence_nil
    | replaced _ hsub => exact absurd (List.append_eq_nil_iff.mp hbs.symm).1 hsub.ne_nil
  | @character seq bs c cs hseq hc _ ih =>
    generalize hwhole : seq ++ bs = whole at h'
    cases h' with
    | nil => exact absurd ((List.append_eq_nil_iff.mp hwhole).1 ▸ hseq) not_isSequence_nil
    | @character seq' bs' c' cs' hseq' hc' h' =>
      obtain rfl := isSequence_prefix_unique hseq hseq' ⟨bs, hwhole⟩ ⟨bs', rfl⟩
      obtain rfl := List.append_cancel_left hwhole
      rw [utf8EncodeChar_injective (hc.trans hc'.symm), ih h']
    | replaced hnone => exact absurd ⟨bs, hwhole⟩ (hnone seq hseq)
  | @replaced sub bs cs hnone hsub _ ih =>
    generalize hwhole : sub ++ bs = whole at h'
    cases h' with
    | nil => exact absurd (List.append_eq_nil_iff.mp hwhole).1 hsub.ne_nil
    | @character seq' bs' c' cs' hseq' => exact absurd ⟨bs', hwhole.symm⟩ (hnone seq' hseq')
    | @replaced sub' bs' cs' _ hsub' h' =>
      obtain rfl := hsub.unique (hwhole ▸ hsub')
      obtain rfl := List.append_cancel_left hwhole
      rw [ih h']

/-! ### The reader of one byte after the other -/

/-- What a state within a character says of the bytes of that character so far. -/
structure Expects (pending : Bytes) (bits low high more : Nat) : Prop where
  started : IsStart pending
  /-- The bytes that complete a sequence lie in the ranges of the state. -/
  completes : ∀ rest, IsSequence (pending ++ rest) ↔
    Matches rest (⟨low, high⟩ :: List.replicate more continuation)
  /-- The bits are those of the character. -/
  character : ∀ rest, IsSequence (pending ++ rest) →
    String.utf8EncodeChar (Char.ofNat (join bits rest)) = pending ++ rest

/-- Every range of the table has bytes. -/
private theorem inhabited_of_mem_sequences :
    ∀ row ∈ sequences, ∀ r ∈ row, r.low ≤ r.high ∧ r.high < 256 := by
  decide

private theorem matches_least {rs : List ByteRange}
    (h : ∀ r ∈ rs, r.low ≤ r.high ∧ r.high < 256) :
    Matches (rs.map fun r => UInt8.ofNat r.low) rs := by
  refine List.forall₂_map_left_iff.mpr (List.forall₂_same.mpr fun r hr => ?_)
  have hlow : (UInt8.ofNat r.low).toNat = r.low := by
    rw [UInt8.toNat_ofNat']
    exact Nat.mod_eq_of_lt (lt_of_le_of_lt (h r hr).1 (h r hr).2)
  exact ⟨hlow.ge, hlow.trans_le (h r hr).1⟩

/-- A first byte in a range of the table, with the ranges behind it. -/
theorem Expects.first {b : UInt8} {bits low high more : Nat} (least greatest : Nat)
    (hrow : ⟨least, greatest⟩ :: ⟨low, high⟩ :: List.replicate more continuation ∈ sequences)
    (hb : least ≤ b.toNat ∧ b.toNat ≤ greatest)
    (hbits : ∀ rest, Matches rest (⟨low, high⟩ :: List.replicate more continuation) →
      String.utf8EncodeChar (Char.ofNat (join bits rest)) = b :: rest) :
    Expects [b] bits low high more := by
  have hcompletes (rest : Bytes) : IsSequence (b :: rest) ↔
      Matches rest (⟨low, high⟩ :: List.replicate more continuation) :=
    isSequence_cons_iff hrow hb
  refine ⟨⟨by simp, _, (hcompletes _).mpr (matches_least fun r hr => ?_)⟩, hcompletes,
    fun rest hrest => hbits rest ((hcompletes rest).mp hrest)⟩
  exact inhabited_of_mem_sequences _ hrow r (List.mem_cons_of_mem _ hr)

/-- What a first byte may be: a character, no start of one, or the start of a character whose other
bytes the state expects. -/
theorem first_cases (b : UInt8) :
    (b.toNat ≤ 0x7f ∧ first b = ([Char.ofNat b.toNat], .between)) ∨
    (¬ IsStart [b] ∧ first b = ([replacement], .between)) ∨
    ∃ bits low high more, first b = ([], .within bits low high more) ∧
      Expects [b] bits low high more := by
  have hsize := b.toNat_lt
  -- one case for each range of first bytes, of which two rows of the table share one
  generalize hout : Utf8.first b = out
  simp only [Utf8.first] at hout
  split_ifs at hout <;> subst hout
  · exact .inl ⟨by omega, rfl⟩
  · exact .inr (.inl ⟨not_isStart_singleton (by omega), rfl⟩)
  · have h : Expects [b] (b.toNat - 0xc0) 0x80 0xbf 0 :=
      .first 0xc2 0xdf (by decide) (by omega) fun rest =>
        utf8EncodeChar_two (by omega)
    exact .inr (.inr ⟨_, _, _, _, rfl, h⟩)
  · have h : Expects [b] 0 0xa0 0xbf 1 :=
      .first 0xe0 0xe0 (by decide) (by omega) fun rest =>
        utf8EncodeChar_three (by omega) (by decide) (by omega) (by omega)
    exact .inr (.inr ⟨_, _, _, _, rfl, h⟩)
  · have h : Expects [b] 0xd 0x80 0x9f 1 :=
      .first 0xed 0xed (by decide) (by omega) fun rest =>
        utf8EncodeChar_three (by omega) (by decide) (by omega) (by omega)
    exact .inr (.inr ⟨_, _, _, _, rfl, h⟩)
  · have hthree (rest : Bytes) : Matches rest [⟨0x80, 0xbf⟩, continuation] →
        String.utf8EncodeChar (Char.ofNat (join (b.toNat - 0xe0) rest)) = b :: rest :=
      utf8EncodeChar_three (by omega) (by decide) (by omega) (by omega)
    have h : Expects [b] (b.toNat - 0xe0) 0x80 0xbf 1 := by
      rcases Nat.lt_or_ge b.toNat 0xed with hlt | hge
      · exact .first 0xe1 0xec (by decide) (by omega) hthree
      · exact .first 0xee 0xef (by decide) (by omega) hthree
    exact .inr (.inr ⟨_, _, _, _, rfl, h⟩)
  · have h : Expects [b] 0 0x90 0xbf 2 :=
      .first 0xf0 0xf0 (by decide) (by omega) fun rest =>
        utf8EncodeChar_four (by omega) (by decide) (by omega) (by omega)
    exact .inr (.inr ⟨_, _, _, _, rfl, h⟩)
  · have h : Expects [b] (b.toNat - 0xf0) 0x80 0xbf 2 :=
      .first 0xf1 0xf3 (by decide) (by omega) fun rest =>
        utf8EncodeChar_four (by omega) (by decide) (by omega) (by omega)
    exact .inr (.inr ⟨_, _, _, _, rfl, h⟩)
  · have h : Expects [b] 4 0x80 0x8f 2 :=
      .first 0xf4 0xf4 (by decide) (by omega) fun rest =>
        utf8EncodeChar_four (by omega) (by decide) (by omega) (by omega)
    exact .inr (.inr ⟨_, _, _, _, rfl, h⟩)
  · exact .inr (.inl ⟨not_isStart_singleton (by omega), rfl⟩)

/-- Within a character, a byte in the range of the state carries on. -/
theorem Expects.next {pending : Bytes} {bits low high more : Nat} {b : UInt8}
    (h : Expects pending bits low high (more + 1)) (hb : low ≤ b.toNat ∧ b.toNat ≤ high) :
    Expects (pending ++ [b]) (64 * bits + b.toNat % 64) 0x80 0xbf more := by
  have hcompletes (rest : Bytes) : IsSequence (pending ++ [b] ++ rest) ↔
      Matches rest (List.replicate (more + 1) continuation) := by
    rw [List.append_assoc, h.completes]
    exact matches_cons_cons_iff.trans (and_iff_right hb)
  refine ⟨⟨by simp, ?_⟩, hcompletes, fun rest hrest => ?_⟩
  · obtain ⟨-, rest, hrest⟩ := h.started
    obtain ⟨_, rest', -, hrest', -⟩ := matches_cons_iff.mp ((h.completes rest).mp hrest)
    exact ⟨rest', (hcompletes rest').mpr hrest'⟩
  · simpa [join] using h.character (b :: rest) (by simpa using hrest)

/-- Within a character, a byte in the range of the state that is the last one completes it. -/
theorem Expects.last {pending : Bytes} {bits low high : Nat} {b : UInt8}
    (h : Expects pending bits low high 0) (hb : low ≤ b.toNat ∧ b.toNat ≤ high) :
    IsSequence (pending ++ [b]) ∧
      String.utf8EncodeChar (Char.ofNat (64 * bits + b.toNat % 64)) = pending ++ [b] := by
  have hseq : IsSequence (pending ++ [b]) :=
    (h.completes [b]).mpr (matches_cons_cons_iff.mpr ⟨hb, .nil⟩)
  exact ⟨hseq, h.character [b] hseq⟩

/-- Within a character, where the next byte is not one that the state expects, the bytes so far are
replaced. -/
theorem Expects.replaced {pending bs : Bytes} {bits low high more : Nat} {cs : List Char}
    (h : Expects pending bits low high more)
    (hbs : ∀ b ∈ bs.head?, ¬ (low ≤ b.toNat ∧ b.toNat ≤ high)) (hcs : Renders bs cs) :
    Renders (pending ++ bs) (replacement :: cs) := by
  have hshort : ¬ IsSequence pending := fun hseq => by
    cases (h.completes []).mp (by simpa using hseq)
  -- a sequence that begins with `pending` goes on with a byte in the range
  have hbeyond (rest more' : Bytes) (hrest : rest <+: bs)
      (hseq : IsSequence (pending ++ rest ++ more')) : rest = [] := by
    rw [List.append_assoc] at hseq
    obtain ⟨b, _, hb, -, hcons⟩ := matches_cons_iff.mp ((h.completes _).mp hseq)
    cases rest with
    | nil => rfl
    | cons b' rest =>
      obtain ⟨tail, rfl⟩ := hrest
      cases hcons
      exact absurd hb (hbs b rfl)
  refine .replaced ?_ ⟨List.prefix_append .., .inl h.started, ?_⟩ hcs
  · intro seq hseq hpre
    rcases List.prefix_or_prefix_of_prefix hpre (List.prefix_append pending bs) with hle | hge
    · obtain ⟨-, rest, hrest⟩ := h.started
      obtain rfl := eq_of_prefix_of_isSequence hseq hrest (hle.trans (List.prefix_append ..))
      have hnil : rest = [] := by simpa using hle.length_le
      exact hshort (by simpa [hnil] using hrest)
    · obtain ⟨rest, rfl⟩ := hge
      have hnil := hbeyond rest [] ((List.prefix_append_right_inj pending).mp hpre)
        (by simpa using hseq)
      exact hshort (by simpa [hnil] using hseq)
  · intro other hpre hother
    rcases List.prefix_or_prefix_of_prefix hpre (List.prefix_append pending bs) with hle | hge
    · exact hle.length_le
    · obtain ⟨rest, rfl⟩ := hge
      rcases hother with ⟨-, more', hseq⟩ | hbyte
      · have hnil := hbeyond rest more' ((List.prefix_append_right_inj pending).mp hpre) hseq
        simp [hnil]
      · have := List.length_pos_of_ne_nil h.started.1
        omega

/-- A byte that begins no character is replaced by itself. -/
theorem renders_of_not_isStart {b : UInt8} {bs : Bytes} {cs : List Char} (hb : ¬ IsStart [b])
    (hcs : Renders bs cs) : Renders (b :: bs) (replacement :: cs) := by
  have hnone (other : Bytes) (hpre : other <+: [b] ++ bs) : ¬ IsStart other := by
    rintro ⟨hne, rest, hseq⟩
    obtain ⟨b', other, rfl⟩ := List.exists_cons_of_ne_nil hne
    obtain ⟨rfl, -⟩ := List.cons_prefix_cons.mp hpre
    exact hb ⟨by simp, other ++ rest, hseq⟩
  rw [← List.singleton_append]
  refine .replaced ?_ ⟨List.prefix_append .., .inr rfl, ?_⟩ hcs
  · intro seq hseq hpre
    exact hnone seq hpre ⟨fun hnil => not_isSequence_nil (hnil ▸ hseq), [], by simpa using hseq⟩
  · intro other hpre hother
    rcases hother with hstart | hbyte
    · exact absurd hstart (hnone other hpre)
    · exact hbyte.le

/-- The reader renders the bytes, also from within a character on. The induction is on the bytes
still to come; within a character, the ones before them are what the state expects. -/
theorem renders_decodeFrom (bs : Bytes) :
    Renders bs (decodeFrom .between bs) ∧ ∀ pending bits low high more,
      Expects pending bits low high more →
        Renders (pending ++ bs) (decodeFrom (.within bits low high more) bs) := by
  induction bs with
  | nil =>
    refine ⟨.nil, fun pending bits low high more h => ?_⟩
    exact h.replaced (by simp) .nil
  | cons b bs ih =>
    have hbetween : Renders (b :: bs) (decodeFrom .between (b :: bs)) := by
      rcases first_cases b with ⟨hb, hfirst⟩ | ⟨hb, hfirst⟩ | ⟨bits, low, high, more, hfirst, hb⟩
      · simp only [decodeFrom, step, hfirst]
        have hseq : IsSequence [b] := ⟨[⟨0x00, 0x7f⟩], by decide, .cons ⟨Nat.zero_le _, hb⟩ .nil⟩
        exact .character hseq (utf8EncodeChar_one hb) ih.1
      · simp only [decodeFrom, step, hfirst]
        exact renders_of_not_isStart hb ih.1
      · simp only [decodeFrom, step, hfirst]
        exact ih.2 [b] bits low high more hb
    refine ⟨hbetween, fun pending bits low high more h => ?_⟩
    by_cases hb : low ≤ b.toNat ∧ b.toNat ≤ high
    · rw [List.append_cons]
      cases more with
      | zero =>
        simp only [decodeFrom, step, if_pos hb]
        have ⟨hseq, hc⟩ := h.last hb
        exact .character hseq hc ih.1
      | succ more =>
        simp only [decodeFrom, step, if_pos hb]
        exact ih.2 _ _ _ _ more (h.next hb)
    · have hhead : ∀ c ∈ (b :: bs).head?, ¬ (low ≤ c.toNat ∧ c.toNat ≤ high) := by
        simpa using hb
      have hreplaced := h.replaced hhead hbetween
      simpa only [decodeFrom, step, if_neg hb, List.cons_append] using hreplaced

/-- What is read is the one reading from left to right. -/
theorem decode_eq_iff_renders {bs : Bytes} {s : String} :
    decode bs = s ↔ Renders bs s.toList := by
  have hdecode : Renders bs (decode bs).toList := by
    simpa only [decode, String.toList_ofList] using (renders_decodeFrom bs).1
  constructor
  · rintro rfl
    exact hdecode
  · exact fun h => String.toList_inj.mp (hdecode.unique h)

/-! ### Text in front, and bytes that are text -/

theorem Renders.flatMap_append {bs : Bytes} {cs : List Char} (h : Renders bs cs) :
    ∀ text : List Char, Renders (text.flatMap String.utf8EncodeChar ++ bs) (text ++ cs)
  | [] => h
  | c :: text => by
    rw [List.flatMap_cons, List.append_assoc]
    exact .character (isSequence_utf8EncodeChar c) rfl (h.flatMap_append text)

theorem decode_encode_append (s : String) (bs : Bytes) :
    decode (encode s ++ bs) = s ++ decode bs := by
  rw [decode_eq_iff_renders, String.toList_append]
  exact (decode_eq_iff_renders.mp rfl).flatMap_append s.toList

theorem decode_encode (s : String) : decode (encode s) = s := by
  have hempty : decode [] = "" := rfl
  simpa [hempty] using decode_encode_append s []

/-- Every sequence is the bytes of a character: the reader makes one of it. -/
theorem exists_utf8EncodeChar_eq {seq : Bytes} (h : IsSequence seq) :
    ∃ c, String.utf8EncodeChar c = seq := by
  have hread := (renders_decodeFrom seq).1
  generalize decodeFrom .between seq = cs at hread
  cases hread with
  | nil => exact absurd h not_isSequence_nil
  | @character seq' bs c _ hseq hc =>
    exact ⟨c, hc.trans (eq_of_prefix_of_isSequence hseq h (List.prefix_append ..))⟩
  | replaced hnone => exact absurd (List.prefix_refl _) (hnone _ h)

/-- Well-formed byte strings are the bytes of texts. -/
theorem wellFormed_iff_exists_encode {bs : Bytes} : WellFormed bs ↔ ∃ s, encode s = bs := by
  constructor
  · rintro ⟨seqs, hseqs, rfl⟩
    induction seqs with
    | nil => exact ⟨"", rfl⟩
    | cons seq seqs ih =>
      obtain ⟨c, hc⟩ := exists_utf8EncodeChar_eq (hseqs seq List.mem_cons_self)
      obtain ⟨s, hs⟩ := ih fun other hother => hseqs other (List.mem_cons_of_mem _ hother)
      refine ⟨String.ofList (c :: s.toList), ?_⟩
      rw [List.flatten_cons, ← hc, ← hs]
      simp only [encode, String.toList_ofList, List.flatMap_cons]
  · rintro ⟨s, rfl⟩
    refine ⟨s.toList.map String.utf8EncodeChar, ?_, List.flatMap_def⟩
    simpa using fun c _ => isSequence_utf8EncodeChar c

/-- Bytes read as text are the bytes of that text exactly when they are well-formed. -/
theorem encode_decode_eq_iff {bs : Bytes} : encode (decode bs) = bs ↔ WellFormed bs := by
  rw [wellFormed_iff_exists_encode]
  constructor
  · exact fun h => ⟨decode bs, h⟩
  · rintro ⟨s, rfl⟩
    rw [decode_encode]

/-- **Bytes are read as text faithfully.** The text of a byte string is its reading from left to
right, with one replacement character for every maximal subpart that is no text. Text in front of
any bytes is read as it was written, and the text has the same bytes exactly when these were
well-formed. -/
theorem decode_faithful :
    (∀ bs s, decode bs = s ↔ Renders bs s.toList) ∧
    (∀ s bs, decode (encode s ++ bs) = s ++ decode bs) ∧
    ∀ bs, encode (decode bs) = bs ↔ WellFormed bs :=
  ⟨fun _ _ => decode_eq_iff_renders, decode_encode_append, fun _ => encode_decode_eq_iff⟩

end Utf8

end MessageGateway
