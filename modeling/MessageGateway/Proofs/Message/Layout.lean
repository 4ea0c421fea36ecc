import MessageGateway.Message.Kind
import MessageGateway.Proofs.Wire.Reading

/-!
# What a layout reads

The values of a layout are spelled by a spelling of each value, one behind the other
(`Layout.Spells`), and reading the layout gives exactly the values that are spelled at the offset.
Every layout takes at least the bytes that its fields take when all their lists and stretches are
empty (`Layout.leastSize`), which is some byte for every kind of message.

## Main definitions

* `MessageGateway.Layout.Spells`.
* `MessageGateway.Shape.leastSize`, `MessageGateway.Layout.leastSize`.

## Main results

* `MessageGateway.Layout.follows_read`.
* `MessageGateway.Kind.length_pos_of_spells` — no message is without a body.
-/

namespace MessageGateway

/-- The least number of bytes that a value of a shape takes. -/
def Shape.leastSize : Shape → Nat
  | .number width => width
  | .flag => 1
  | .fixed size => size
  | .key => keySize
  | .blob | .keys | .signatures => 4

theorem Shape.leastSize_le_length :
    (s : Shape) → {bs : Bytes} → {v : s.Value} → s.Spells bs v → s.leastSize ≤ bs.length
  | .number width, _, _, ⟨_, hbs⟩ => by
      rw [hbs, Shape.encode, Bytes.length_ofNatLE, Shape.leastSize]
  | .flag, _, _, ⟨_, hbs, _⟩ => by
      rw [hbs]
      exact Nat.le_refl 1
  | .fixed _, _, _, ⟨hlen, hbs⟩ => by
      rw [hbs]
      exact hlen.ge
  | .key, _, _, ⟨hlen, hbs⟩ => by
      rw [hbs]
      exact hlen.ge
  | .blob, _, _, ⟨_, hbs⟩ | .keys, _, _, ⟨_, hbs⟩ | .signatures, _, _, ⟨_, hbs⟩ => by
      rw [hbs, Shape.encode, List.length_append, Bytes.length_ofNatLE, Shape.leastSize]
      exact Nat.le_add_right 4 _

namespace Layout

/-- The byte strings that stand for the values of a layout: a spelling of every value, one behind
the other. -/
def Spells : (l : Layout) → Bytes → l.Values → Prop
  | [], bs, () => bs = []
  | f :: l, bs, (value, values) =>
    ∃ fst snd, f.shape.Spells fst value ∧ Spells l snd values ∧ bs = fst ++ snd

instance decidableFits : (l : Layout) → (values : l.Values) → Decidable (l.Fits values)
  | [], () => inferInstanceAs (Decidable True)
  | f :: l, (value, values) =>
    have : Decidable (Fits l values) := decidableFits l values
    inferInstanceAs (Decidable (f.shape.Fits value ∧ Fits l values))

/-- Values that are spelled fit their fields. -/
theorem fits_of_spells : (l : Layout) → {bs : Bytes} → {values : l.Values} →
    l.Spells bs values → l.Fits values
  | [], _, (), _ => trivial
  | _ :: l, _, (_, _), ⟨_, _, hfst, hsnd, _⟩ => ⟨hfst.fits, fits_of_spells l hsnd⟩

/-- Values that fit are spelled by their own bytes. -/
theorem spells_encode : (l : Layout) → {values : l.Values} → l.Fits values →
    l.Spells (l.encode values) values
  | [], (), _ => rfl
  | f :: l, (_, _), ⟨hvalue, hvalues⟩ =>
    ⟨_, _, f.shape.spells_encode hvalue, spells_encode l hvalues, rfl⟩

/-- The values of a layout without flags are spelled by their own bytes only. -/
theorem eq_encode_of_spells : (l : Layout) → {bs : Bytes} → {values : l.Values} →
    (∀ f ∈ l, f.shape ≠ .flag) → l.Spells bs values → l.Fits values ∧ bs = l.encode values
  | [], _, (), _, h => ⟨trivial, h⟩
  | f :: l, _, (_, _), hl, ⟨_, _, hfst, hsnd, hbs⟩ => by
      obtain ⟨hf, hl⟩ := List.forall_mem_cons.mp hl
      obtain ⟨hvalue, rfl⟩ := (Shape.spells_iff hf).mp hfst
      obtain ⟨hvalues, rfl⟩ := eq_encode_of_spells l hl hsnd
      exact ⟨⟨hvalue, hvalues⟩, hbs⟩

/-- A read of a layout gives exactly the values that are spelled at the offset. -/
theorem follows_read {buffer : Bytes} :
    (l : Layout) → (offset : Nat) → Follows buffer offset l.Spells (l.read buffer offset)
  | [], offset => by
      rintro ⟨⟩ next
      simp only [read, Except.ok.injEq, Prod.mk.injEq, true_and]
      constructor
      · rintro rfl
        exact ⟨[], rfl, List.nil_prefix, rfl⟩
      · rintro ⟨_, rfl, -, rfl⟩
        rfl
  | f :: l, offset => by
      refine Follows.congr (Follows.bind f.shape.follows_read fun value o =>
        Follows.map (Prod.mk value) (fun _ _ => rfl) (follows_read l o)) ?_
      rintro bs ⟨value, values⟩
      constructor
      · rintro ⟨_, fst, snd, hfst, ⟨_, hsnd, ⟨⟩⟩, rfl⟩
        exact ⟨fst, snd, hfst, hsnd, rfl⟩
      · rintro ⟨fst, snd, hfst, hsnd, rfl⟩
        exact ⟨value, fst, snd, hfst, ⟨values, hsnd, rfl⟩, rfl⟩

/-- The least number of bytes that the values of a layout take. -/
def leastSize : Layout → Nat
  | [] => 0
  | f :: l => f.shape.leastSize + leastSize l

theorem leastSize_le_length : (l : Layout) → {bs : Bytes} → {values : l.Values} →
    l.Spells bs values → l.leastSize ≤ bs.length
  | [], _, (), _ => Nat.zero_le _
  | f :: l, _, (_, _), ⟨_, _, hfst, hsnd, hbs⟩ => by
      have hvalue := f.shape.leastSize_le_length hfst
      have hvalues := leastSize_le_length l hsnd
      rw [hbs, List.length_append, leastSize]
      exact Nat.add_le_add hvalue hvalues

end Layout

namespace Kind

theorem leastSize_layout_pos (kind : Kind) : 0 < kind.layout.leastSize := by
  cases kind <;> decide

/-- No message is without a body. -/
theorem length_pos_of_spells {kind : Kind} {body : Bytes} {values : kind.layout.Values}
    (h : kind.layout.Spells body values) : 0 < body.length :=
  Nat.lt_of_lt_of_le kind.leastSize_layout_pos (kind.layout.leastSize_le_length h)

end Kind

end MessageGateway
