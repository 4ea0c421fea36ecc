import Mathlib.Algebra.GroupWithZero.Nat
import MessageGateway.Proofs.Wire.Reading

/-!
# Runs of reads

Fields are read one after another from one buffer, each at the offset behind the one before it
(`readAll`). What a run gives is a list of values, each with its shape, and its bytes are those of
the values, one behind the other (`encodeAll`). As every read gives exactly the values that are
spelled at its offset, so does a run of reads (`follows_readAll`), and where none of the fields is a
flag, the values are spelled by their own bytes only: a run undoes encoding, and what it has
consumed is the encoding of what it gives (`readAll_undoes_encodeAll`).

## Main definitions

* `MessageGateway.FieldRead`, `MessageGateway.TypedValue`.
* `MessageGateway.readAll`, `MessageGateway.encodeAll`, `MessageGateway.SpellsAll`.

## Main results

* `MessageGateway.follows_readAll`.
* `MessageGateway.readAll_undoes_encodeAll`.
-/

namespace MessageGateway

/-- A field to be read: its shape, and the name under which it is reported. -/
structure FieldRead where
  shape : Shape
  field : String
  deriving DecidableEq

/-- A value with its shape. -/
structure TypedValue where
  shape : Shape
  value : shape.Value

namespace TypedValue

/-- The value is one that its shape can hold. -/
def Fits (v : TypedValue) : Prop :=
  v.shape.Fits v.value

instance (v : TypedValue) : Decidable v.Fits :=
  inferInstanceAs (Decidable (v.shape.Fits v.value))

/-- The bytes of the value. -/
def encode (v : TypedValue) : Bytes :=
  v.shape.encode v.value

end TypedValue

/-- The values of the fields from an offset on, and the offset behind the last. -/
def readAll (buffer : Bytes) :
    List FieldRead → (offset : Int) → Except OutOfBounds (List TypedValue × Int)
  | [], offset => .ok ([], offset)
  | r :: reads, offset => do
    let (value, next) ← r.shape.read buffer offset r.field
    let (values, last) ← readAll buffer reads next
    return (⟨r.shape, value⟩ :: values, last)

/-- The bytes of values, one behind the other. -/
def encodeAll (values : List TypedValue) : Bytes :=
  values.flatMap TypedValue.encode

/-! ### What a run gives -/

/-- The byte strings that stand for the values of the fields: a spelling of every value, one behind
the other. -/
def SpellsAll : List FieldRead → Bytes → List TypedValue → Prop
  | [], bs, values => values = [] ∧ bs = []
  | r :: reads, bs, values =>
    ∃ value rest fst snd, r.shape.Spells fst value ∧ SpellsAll reads snd rest ∧
      values = ⟨r.shape, value⟩ :: rest ∧ bs = fst ++ snd

/-- A run of reads gives exactly the values that are spelled from the offset on. -/
theorem follows_readAll {buffer : Bytes} : (reads : List FieldRead) → (offset : Nat) →
    Follows buffer offset (SpellsAll reads) (readAll buffer reads offset)
  | [], offset => by
      intro values next
      simp only [readAll, Except.ok.injEq, Prod.mk.injEq]
      constructor
      · rintro ⟨rfl, rfl⟩
        exact ⟨[], ⟨rfl, rfl⟩, List.nil_prefix, rfl⟩
      · rintro ⟨_, ⟨rfl, rfl⟩, -, rfl⟩
        exact ⟨rfl, rfl⟩
  | r :: reads, offset => by
      refine Follows.congr (Follows.bind r.shape.follows_read fun value o =>
        Follows.map (⟨r.shape, value⟩ :: ·) (fun _ _ => rfl) (follows_readAll reads o)) ?_
      intro bs values
      constructor
      · rintro ⟨value, fst, snd, hfst, ⟨rest, hsnd, rfl⟩, rfl⟩
        exact ⟨value, rest, fst, snd, hfst, hsnd, rfl, rfl⟩
      · rintro ⟨value, rest, fst, snd, hfst, hsnd, rfl, rfl⟩
        exact ⟨value, fst, snd, hfst, ⟨rest, hsnd, rfl⟩, rfl⟩

/-! ### Spellings and encodings -/

/-- Values that fit are spelled by their own bytes. -/
theorem spellsAll_encodeAll : (reads : List FieldRead) → {values : List TypedValue} →
    values.map TypedValue.shape = reads.map FieldRead.shape → (∀ v ∈ values, v.Fits) →
      SpellsAll reads (encodeAll values) values
  | [], [], _, _ => ⟨rfl, rfl⟩
  | ⟨shape, field⟩ :: reads, ⟨shape', value⟩ :: values, hshapes, hfits => by
      obtain ⟨hshape, hrest⟩ := List.cons.inj hshapes
      obtain rfl : shape' = shape := hshape
      obtain ⟨hvalue, hfits⟩ := List.forall_mem_cons.mp hfits
      exact ⟨value, values, _, _, Shape.spells_encode _ hvalue,
        spellsAll_encodeAll reads hrest hfits, rfl, rfl⟩

/-- Where none of the fields is a flag, the values that a byte string spells fit and have no other
bytes. -/
theorem eq_encodeAll_of_spellsAll : (reads : List FieldRead) → {bs : Bytes} →
    {values : List TypedValue} → (∀ r ∈ reads, r.shape ≠ .flag) → SpellsAll reads bs values →
      values.map TypedValue.shape = reads.map FieldRead.shape ∧ (∀ v ∈ values, v.Fits) ∧
        bs = encodeAll values
  | [], _, _, _, ⟨hvalues, hbs⟩ => by
      rw [hvalues, hbs]
      exact ⟨rfl, List.forall_mem_nil _, rfl⟩
  | r :: reads, _, _, hreads, ⟨value, rest, _, _, hfst, hsnd, hvalues, hbs⟩ => by
      obtain ⟨hr, hreads⟩ := List.forall_mem_cons.mp hreads
      obtain ⟨hvalue, rfl⟩ := (Shape.spells_iff hr).mp hfst
      obtain ⟨hshapes, hfits, rfl⟩ := eq_encodeAll_of_spellsAll reads hreads hsnd
      rw [hvalues, hbs]
      exact ⟨congrArg (r.shape :: ·) hshapes, List.forall_mem_cons.mpr ⟨hvalue, hfits⟩, rfl⟩

/-! ### Runs undo encoding -/

section Runs

variable {reads : List FieldRead} {values : List TypedValue}

/-- The encoding of values that fit is read back wherever it stands. -/
theorem readAll_encodeAll (before after : Bytes)
    (hshapes : values.map TypedValue.shape = reads.map FieldRead.shape)
    (hfits : ∀ v ∈ values, v.Fits) :
    readAll (before ++ encodeAll values ++ after) reads before.length =
      .ok (values, ((before.length + (encodeAll values).length : Nat) : Int)) := by
  refine (follows_readAll reads before.length values _).mpr
    ⟨encodeAll values, spellsAll_encodeAll reads hshapes hfits, ?_, rfl⟩
  rw [List.append_assoc, List.drop_left]
  exact List.prefix_append _ _

/-- A run that succeeds from an offset within the buffer ends there as well, and has consumed the
encoding of what it gives. -/
theorem encodeAll_of_readAll {buffer : Bytes} {offset : Nat} {last : Int}
    (hreads : ∀ r ∈ reads, r.shape ≠ .flag) (hoffset : offset ≤ buffer.length)
    (h : readAll buffer reads offset = .ok (values, last)) :
    ∃ stop : Nat, last = stop ∧ offset ≤ stop ∧ stop ≤ buffer.length ∧
      buffer.slice offset (stop - offset) = encodeAll values ∧
      values.map TypedValue.shape = reads.map FieldRead.shape ∧ ∀ v ∈ values, v.Fits := by
  obtain ⟨bs, hspells, hp, rfl⟩ := (follows_readAll reads offset values last).mp h
  obtain ⟨hshapes, hfits, rfl⟩ := eq_encodeAll_of_spellsAll reads hreads hspells
  have hroom := hp.length_le
  rw [List.length_drop] at hroom
  refine ⟨offset + (encodeAll values).length, rfl, by omega, by omega, ?_, hshapes, hfits⟩
  rw [Bytes.slice, Nat.add_sub_cancel_left]
  exact (List.prefix_iff_eq_take.mp hp).symm

end Runs

/-- **Runs of reads undo encoding, and encoding undoes them.** Whatever stands before and behind
them, the bytes of values that fit are read back as these values by any reads of their shapes, up to
where the bytes end. And wherever reads, none of which is of a flag, all succeed, the run ends
within the buffer, and the bytes from its start to its end are those of the values that it gives. -/
theorem readAll_undoes_encodeAll (reads : List FieldRead) :
    (∀ (before after : Bytes) (values : List TypedValue),
      values.map TypedValue.shape = reads.map FieldRead.shape → (∀ v ∈ values, v.Fits) →
        readAll (before ++ encodeAll values ++ after) reads before.length =
          .ok (values, before.length + ((values.map fun v => v.encode.length).sum : Nat))) ∧
      ((∀ r ∈ reads, r.shape ≠ .flag) →
        ∀ (buffer : Bytes) (offset : Int) (values : List TypedValue) (last : Int),
          0 ≤ offset → offset ≤ buffer.length → readAll buffer reads offset = .ok (values, last) →
            offset ≤ last ∧ last ≤ buffer.length ∧
              buffer.slice offset.toNat (last - offset).toNat = encodeAll values ∧
              values.map TypedValue.shape = reads.map FieldRead.shape ∧ ∀ v ∈ values, v.Fits) := by
  constructor
  · intro before after values hshapes hfits
    rw [readAll_encodeAll before after hshapes hfits, encodeAll, List.length_flatMap]
    rfl
  · intro hreads buffer offset values last hstart hoffset h
    obtain ⟨offset, rfl⟩ := Int.eq_ofNat_of_zero_le hstart
    obtain ⟨stop, rfl, hle, hstop, hslice, hvalues⟩ :=
      encodeAll_of_readAll hreads (Int.ofNat_le.mp hoffset) h
    have hsize : ((stop : Int) - offset).toNat = stop - offset := by omega
    refine ⟨Int.ofNat_le.mpr hle, Int.ofNat_le.mpr hstop, ?_, hvalues⟩
    rw [Int.toNat_natCast, hsize, hslice]

/-- A number, a stretch behind its length, a list of one public key and an empty list of
signatures, behind two other bytes and in front of one. -/
theorem readAll_undoes_encodeAll_sample :
    let reads : List FieldRead :=
      [⟨.number 2, "u16"⟩, ⟨.blob, "bytes"⟩, ⟨.keys, "pubkeys"⟩, ⟨.signatures, "signatures"⟩]
    let values : List TypedValue :=
      [⟨.number 2, 0xff01⟩, ⟨.blob, [7, 8, 9]⟩, ⟨.keys, [List.replicate 32 5]⟩, ⟨.signatures, []⟩]
    let buffer : Bytes := [0xaa, 0xbb] ++ encodeAll values ++ [0xcc]
    readAll buffer reads 2 = .ok (values, 51) ∧ buffer.length = 52 ∧
      buffer.slice 2 49 = encodeAll values := by
  intro reads values buffer
  have hruns := readAll_undoes_encodeAll reads
  have hread : readAll buffer reads 2 = .ok (values, 51) :=
    hruns.1 [0xaa, 0xbb] [0xcc] values rfl (by decide)
  obtain ⟨-, -, hslice, -⟩ :=
    hruns.2 (by decide) buffer 2 values 51 (by decide) (by decide) hread
  exact ⟨hread, rfl, hslice⟩

end MessageGateway
