import Mathlib.Data.List.Infix
import MessageGateway.Wire.Read

/-!
# What a read gives

A value of a shape is *spelled* by the byte strings that stand for it on the wire
(`Shape.Spells`): by its own bytes alone, except that a flag which is set may be any byte but zero.
A read at an offset gives exactly the values of the byte strings that lie there, and the offset
behind them: it *follows* the relation of spelling (`Follows`).

Reads that follow relations follow their composition when they are made one after another
(`Follows.bind`), and a request for just the bytes that a read is going to take changes nothing
(`Follows.guard`). With these two laws every reader follows the spelling of its shape
(`follows_read`).

## Main definitions

* `MessageGateway.Shape.Spells`, `MessageGateway.Follows`.

## Main results

* `MessageGateway.Shape.follows_read` — a read of a shape follows its spelling.
* `MessageGateway.Follows.unique` — one value and one byte string at an offset.
-/

namespace MessageGateway

namespace Shape

/-- The byte strings that stand for a value on the wire: a set flag is any byte but zero, and every
other value, if it fits, is its own bytes. -/
def Spells : (s : Shape) → Bytes → s.Value → Prop
  | .flag, bs, v => ∃ b : UInt8, bs = [b] ∧ v = (b != 0)
  | s, bs, v => s.Fits v ∧ bs = s.encode v

instance : (s : Shape) → (v : s.Value) → Decidable (s.Fits v)
  | .number width, n => inferInstanceAs (Decidable (n < 256 ^ width))
  | .flag, _ => inferInstanceAs (Decidable True)
  | .fixed size, bs => inferInstanceAs (Decidable (bs.length = size))
  | .key, bs => inferInstanceAs (Decidable (bs.length = keySize))
  | .blob, bs => inferInstanceAs (Decidable (bs.length < 256 ^ 4))
  | .keys, ks => inferInstanceAs (Decidable (ks.length < 256 ^ 4 ∧ ∀ k ∈ ks, k.length = keySize))
  | .signatures, es => inferInstanceAs (Decidable (es.length < 256 ^ 4 ∧
      ∀ e ∈ es, e.1.length = signatureSize ∧ e.2.length = keySize))

theorem spells_number_iff {width n : Nat} {bs : Bytes} :
    (Shape.number width).Spells bs n ↔ bs.length = width ∧ n = bs.toNatLE := by
  constructor
  · rintro ⟨hfits, rfl⟩
    exact ⟨Bytes.length_ofNatLE width n, (Bytes.toNatLE_ofNatLE hfits).symm⟩
  · rintro ⟨rfl, rfl⟩
    exact ⟨Bytes.toNatLE_lt bs, (Bytes.ofNatLE_toNatLE bs).symm⟩

/-- Only a flag is spelled by anything but its own bytes. -/
theorem spells_iff : {s : Shape} → s ≠ .flag → {bs : Bytes} → {v : s.Value} →
    (s.Spells bs v ↔ s.Fits v ∧ bs = s.encode v)
  | .flag, h, _, _ => absurd rfl h
  | .number _, _, _, _ | .fixed _, _, _, _ | .key, _, _, _ | .blob, _, _, _ | .keys, _, _, _
  | .signatures, _, _, _ => Iff.rfl

/-- What is spelled fits. -/
theorem Spells.fits {s : Shape} {bs : Bytes} {v : s.Value} (h : s.Spells bs v) : s.Fits v := by
  by_cases hs : s = .flag
  · subst hs
    trivial
  · exact ((spells_iff hs).mp h).1

/-- A value that fits is spelled by its own bytes. -/
theorem spells_encode (s : Shape) {v : s.Value} (h : s.Fits v) : s.Spells (s.encode v) v := by
  by_cases hs : s = .flag
  · subst hs
    cases v with
    | true => exact ⟨1, rfl, rfl⟩
    | false => exact ⟨0, rfl, rfl⟩
  · exact (spells_iff hs).mpr ⟨h, rfl⟩

end Shape

/-! ### Reads that follow a relation -/

/-- A read at an offset follows a relation between byte strings and values when it gives exactly
the values whose byte strings lie at the offset, and the offset behind them. -/
def Follows {α : Type} (buffer : Bytes) (offset : Nat) (spells : Bytes → α → Prop)
    (read : Except OutOfBounds (α × Int)) : Prop :=
  ∀ v next, read = .ok (v, next) ↔
    ∃ bs, spells bs v ∧ bs <+: buffer.drop offset ∧ next = ((offset + bs.length : Nat) : Int)

/-- Two byte strings lie one behind the other. -/
theorem append_prefix_drop_iff {bs cs buffer : Bytes} {offset : Nat} :
    bs ++ cs <+: buffer.drop offset ↔
      bs <+: buffer.drop offset ∧ cs <+: buffer.drop (offset + bs.length) := by
  constructor
  · rintro ⟨rest, hrest⟩
    refine ⟨⟨cs ++ rest, by rw [← hrest, List.append_assoc]⟩, rest, ?_⟩
    rw [← List.drop_drop, ← hrest, List.append_assoc, List.drop_left]
  · rintro ⟨⟨rest, hrest⟩, hcs⟩
    rw [← List.drop_drop, ← hrest, List.drop_left] at hcs
    rw [← hrest]
    exact (List.prefix_append_right_inj bs).mpr hcs

namespace Follows

variable {α β : Type} {buffer : Bytes} {offset : Nat} {spells spells' : Bytes → α → Prop}
  {read : Except OutOfBounds (α × Int)}

theorem congr (h : Follows buffer offset spells read)
    (heq : ∀ bs v, spells bs v ↔ spells' bs v) : Follows buffer offset spells' read := by
  intro v next
  simp only [h v next, heq]

/-- What lies at an offset lies there in one way only. -/
theorem unique (h : Follows buffer offset spells read) {bs bs' : Bytes} {v v' : α}
    (hs : spells bs v) (hp : bs <+: buffer.drop offset)
    (hs' : spells bs' v') (hp' : bs' <+: buffer.drop offset) : bs = bs' ∧ v = v' := by
  have hread := (h v _).mpr ⟨bs, hs, hp, rfl⟩
  have hread' := (h v' _).mpr ⟨bs', hs', hp', rfl⟩
  rw [hread] at hread'
  obtain ⟨hv, hnext⟩ := Prod.mk.inj (Except.ok.inj hread')
  have hlen : bs.length = bs'.length := by omega
  exact ⟨(List.prefix_of_prefix_length_le hp hp' (Nat.le_of_eq hlen)).eq_of_length hlen, hv⟩

/-- A read whose value is taken further. -/
theorem map (g : α → β) {next : α × Int → Except OutOfBounds (β × Int)}
    (hnext : ∀ v o, next (v, o) = .ok (g v, o)) (h : Follows buffer offset spells read) :
    Follows buffer offset (fun bs w => ∃ v, spells bs v ∧ w = g v) (read >>= next) := by
  intro w last
  rw [bind_eq_ok_iff]
  constructor
  · rintro ⟨⟨v, o⟩, hread, hw⟩
    obtain ⟨bs, hs, hp, ho⟩ := (h v o).mp hread
    rw [hnext] at hw
    cases hw
    exact ⟨bs, ⟨v, hs, rfl⟩, hp, ho⟩
  · rintro ⟨bs, ⟨v, hs, rfl⟩, hp, ho⟩
    exact ⟨(v, last), (h v last).mpr ⟨bs, hs, hp, ho⟩, hnext v last⟩

/-- Two reads, one behind the other: the second starts where the first ends. -/
theorem bind {spellsNext : α → Bytes → β → Prop}
    {next : α × Int → Except OutOfBounds (β × Int)} (h : Follows buffer offset spells read)
    (hnext : ∀ v (o : Nat), Follows buffer o (spellsNext v) (next (v, (o : Int)))) :
    Follows buffer offset
      (fun bs w => ∃ v fst snd, spells fst v ∧ spellsNext v snd w ∧ bs = fst ++ snd)
      (read >>= next) := by
  intro w last
  rw [bind_eq_ok_iff]
  constructor
  · rintro ⟨⟨v, o⟩, hread, hw⟩
    obtain ⟨fst, hfst, hpfst, rfl⟩ := (h v o).mp hread
    obtain ⟨snd, hsnd, hpsnd, rfl⟩ := (hnext v _ w last).mp hw
    refine ⟨fst ++ snd, ⟨v, fst, snd, hfst, hsnd, rfl⟩,
      append_prefix_drop_iff.mpr ⟨hpfst, hpsnd⟩, ?_⟩
    rw [List.length_append, Nat.add_assoc]
  · rintro ⟨_, ⟨v, fst, snd, hfst, hsnd, rfl⟩, hp, rfl⟩
    obtain ⟨hpfst, hpsnd⟩ := append_prefix_drop_iff.mp hp
    refine ⟨(v, ((offset + fst.length : Nat) : Int)), (h v _).mpr ⟨fst, hfst, hpfst, rfl⟩,
      (hnext v _ w _).mpr ⟨snd, hsnd, hpsnd, ?_⟩⟩
    rw [List.length_append, Nat.add_assoc]

/-- A request for the bytes that a read takes anyway. -/
theorem guard {size : Nat} {field : String} (h : Follows buffer offset spells read)
    (hsize : ∀ bs v, spells bs v → bs.length = size) :
    Follows buffer offset spells (ensureAvailable buffer offset size field >>= fun _ => read) := by
  intro v last
  rw [bind_eq_ok_iff]
  constructor
  · rintro ⟨⟨⟩, -, hread⟩
    exact (h v last).mp hread
  · intro hread
    refine ⟨(), ensureAvailable_eq_ok_iff.mpr ⟨Int.natCast_nonneg offset, ?_⟩, (h v last).mpr hread⟩
    obtain ⟨bs, hs, hp, -⟩ := hread
    have hlen := hp.length_le
    rw [List.length_drop, hsize bs v hs] at hlen
    omega

end Follows

/-! ### The readers -/

open Follows

variable {buffer : Bytes} {offset : Nat} {field : String}

theorem follows_readBytes {size : Nat} :
    Follows buffer offset (Shape.fixed size).Spells (readBytes buffer offset size field) := by
  intro v next
  constructor
  · intro h
    obtain ⟨⟨⟩, -, hread⟩ := bind_eq_ok_iff.mp h
    obtain ⟨rfl, rfl⟩ := Prod.mk.inj (Except.ok.inj hread)
    have hlen : (buffer.slice offset size).length = size := length_of_readBytes h
    exact ⟨buffer.slice offset size, ⟨hlen, rfl⟩, List.take_prefix _ _, by rw [hlen]; rfl⟩
  · rintro ⟨bs, ⟨hlen, hbs⟩, hp, rfl⟩
    obtain rfl : bs = v := hbs
    replace hlen : bs.length = size := hlen
    have hslice : buffer.slice offset size = bs := by
      rw [Bytes.slice, ← hlen]
      exact (List.prefix_iff_eq_take.mp hp).symm
    have hroom := hp.length_le
    rw [List.length_drop] at hroom
    refine bind_eq_ok_iff.mpr
      ⟨(), ensureAvailable_eq_ok_iff.mpr ⟨Int.natCast_nonneg offset, by omega⟩, ?_⟩
    rw [Int.toNat_natCast, hslice, hlen]
    rfl

theorem follows_readNumber {width : Nat} :
    Follows buffer offset (Shape.number width).Spells (readNumber buffer offset width field) := by
  refine congr (map Bytes.toNatLE (fun _ _ => rfl) follows_readBytes) fun bs n => ?_
  rw [Shape.spells_number_iff]
  constructor
  · rintro ⟨_, ⟨hlen, rfl⟩, rfl⟩
    exact ⟨hlen, rfl⟩
  · rintro ⟨hlen, rfl⟩
    exact ⟨bs, ⟨hlen, rfl⟩, rfl⟩

theorem follows_readFlag :
    Follows buffer offset Shape.flag.Spells (readFlag buffer offset field) := by
  refine congr (map (· != 0) (fun _ _ => rfl) follows_readNumber) fun bs v => ?_
  simp only [Shape.spells_number_iff, List.length_eq_one_iff]
  constructor
  · rintro ⟨_, ⟨⟨b, rfl⟩, rfl⟩, rfl⟩
    refine ⟨b, rfl, ?_⟩
    simp [Bytes.toNatLE, bne, ← UInt8.toNat_inj]
  · rintro ⟨b, rfl, rfl⟩
    refine ⟨_, ⟨⟨b, rfl⟩, rfl⟩, ?_⟩
    simp [Bytes.toNatLE, bne, ← UInt8.toNat_inj]

theorem follows_readBlob :
    Follows buffer offset Shape.blob.Spells (readBlob buffer offset field) := by
  refine congr (bind follows_readNumber fun _ _ => follows_readBytes) fun bs v => ?_
  constructor
  · rintro ⟨_, _, _, ⟨hfits, rfl⟩, ⟨rfl, rfl⟩, rfl⟩
    exact ⟨hfits, rfl⟩
  · rintro ⟨hfits, rfl⟩
    exact ⟨v.length, _, v, ⟨hfits, rfl⟩, ⟨rfl, rfl⟩, rfl⟩

/-! ### Lists -/

section Lists

variable {α : Type} {fits : α → Prop} {encode : α → Bytes}
  {read : Nat → Int → Except OutOfBounds (α × Int)}

/-- The elements of a list, one behind the other. -/
theorem follows_readElements
    (h : ∀ i (o : Nat), Follows buffer o (fun bs v => fits v ∧ bs = encode v) (read i o))
    (count index : Nat) (offset : Nat) :
    Follows buffer offset
      (fun bs vs => vs.length = count ∧ (∀ v ∈ vs, fits v) ∧ bs = vs.flatMap encode)
      (readElements read count index offset) := by
  induction count generalizing index offset with
  | zero =>
    intro vs next
    simp only [readElements, Except.ok.injEq, Prod.mk.injEq, List.length_eq_zero_iff]
    constructor
    · rintro ⟨rfl, rfl⟩
      exact ⟨[], ⟨rfl, by simp, rfl⟩, List.nil_prefix, rfl⟩
    · rintro ⟨_, ⟨rfl, -, rfl⟩, -, rfl⟩
      exact ⟨rfl, rfl⟩
  | succ count ih =>
    refine congr (bind (h index offset) fun v o =>
      map (v :: ·) (fun _ _ => rfl) (ih (index + 1) o)) fun bs vs => ?_
    constructor
    · rintro ⟨v, _, _, ⟨hv, rfl⟩, ⟨ws, ⟨hlen, hws, rfl⟩, rfl⟩, rfl⟩
      exact ⟨by rw [List.length_cons, hlen], List.forall_mem_cons.mpr ⟨hv, hws⟩, rfl⟩
    · rintro ⟨hlen, hvs, rfl⟩
      obtain ⟨v, ws, rfl⟩ := List.exists_cons_of_length_eq_add_one hlen
      obtain ⟨hv, hws⟩ := List.forall_mem_cons.mp hvs
      exact ⟨v, _, _, ⟨hv, rfl⟩, ⟨ws, ⟨Nat.succ.inj hlen, hws, rfl⟩, rfl⟩, rfl⟩

theorem length_flatMap_of_forall {size : Nat} {vs : List α}
    (h : ∀ v ∈ vs, (encode v).length = size) :
    (vs.flatMap encode).length = vs.length * size := by
  induction vs with
  | nil => simp
  | cons v vs ih =>
    obtain ⟨hv, hvs⟩ := List.forall_mem_cons.mp h
    rw [List.flatMap_cons, List.length_append, hv, ih hvs, List.length_cons, Nat.succ_mul,
      Nat.add_comm]

/-- A list is read as its count, a request for all elements at once, and the elements. -/
theorem readCount_bind {size : Nat} :
    (readCount buffer offset size field >>= fun p => readElements read p.1 0 p.2) =
      readNumber buffer offset 4 (field ++ ".count") >>= fun p =>
        ensureAvailable buffer p.2 (p.1 * size) field >>= fun _ => readElements read p.1 0 p.2 := by
  simp only [readCount, bind_assoc, pure_bind]

/-- A list behind its count. The request for all elements at once is for just the bytes that they
take. -/
theorem follows_readCount {size : Nat}
    (h : ∀ i (o : Nat), Follows buffer o (fun bs v => fits v ∧ bs = encode v) (read i o))
    (hsize : ∀ v, fits v → (encode v).length = size) :
    Follows buffer offset
      (fun bs vs => (vs.length < 256 ^ 4 ∧ ∀ v ∈ vs, fits v) ∧
        bs = Bytes.ofNatLE 4 vs.length ++ vs.flatMap encode)
      (readCount buffer offset size field >>= fun p => readElements read p.1 0 p.2) := by
  -- The elements take just the bytes that are asked for, so the request makes no difference.
  rw [readCount_bind]
  refine congr (bind follows_readNumber fun count o =>
    guard (follows_readElements h count 0 o) ?_) fun bs vs => ?_
  · rintro _ vs ⟨hlen, hvs, rfl⟩
    rw [length_flatMap_of_forall fun v hv => hsize v (hvs v hv), hlen]
  · constructor
    · rintro ⟨_, _, _, ⟨hcount, rfl⟩, ⟨rfl, hvs, rfl⟩, rfl⟩
      exact ⟨⟨hcount, hvs⟩, rfl⟩
    · rintro ⟨⟨hcount, hvs⟩, rfl⟩
      exact ⟨vs.length, _, _, ⟨hcount, rfl⟩, ⟨rfl, hvs, rfl⟩, rfl⟩

end Lists

theorem follows_readKeys :
    Follows buffer offset Shape.keys.Spells (readKeys buffer offset field) := by
  refine congr (follows_readCount (fun _ _ => follows_readBytes) fun _ h => h) fun bs ks => ?_
  change _ ∧ bs = _ ++ ks.flatMap id ↔ _
  rw [List.flatMap_id]
  rfl

theorem follows_readSignature :
    Follows buffer offset
      (fun bs e => (e.1.length = signatureSize ∧ e.2.length = keySize) ∧ bs = e.1 ++ e.2)
      (readSignature buffer offset field) := by
  refine congr (bind follows_readBytes fun signature _ =>
    map (Prod.mk signature) (fun _ _ => rfl) follows_readBytes) fun bs e => ?_
  constructor
  · rintro ⟨_, _, _, ⟨hsignature, rfl⟩, ⟨_, ⟨hsigner, rfl⟩, rfl⟩, rfl⟩
    exact ⟨⟨hsignature, hsigner⟩, rfl⟩
  · rintro ⟨⟨hsignature, hsigner⟩, rfl⟩
    exact ⟨e.1, _, _, ⟨hsignature, rfl⟩, ⟨e.2, ⟨hsigner, rfl⟩, rfl⟩, rfl⟩

theorem follows_readSignatures :
    Follows buffer offset Shape.signatures.Spells (readSignatures buffer offset field) := by
  refine (follows_readCount (fun _ _ => follows_readSignature) ?_).congr fun bs es => Iff.rfl
  rintro e ⟨hsignature, hsigner⟩
  rw [List.length_append, hsignature, hsigner]

/-! ### All shapes -/

/-- A read of a shape gives exactly the values that are spelled at the offset. -/
theorem Shape.follows_read :
    (s : Shape) → Follows buffer offset s.Spells (s.read buffer offset field)
  | .number _ => follows_readNumber
  | .flag => follows_readFlag
  | .fixed _ => follows_readBytes
  | .key => follows_readBytes
  | .blob => follows_readBlob
  | .keys => follows_readKeys
  | .signatures => follows_readSignatures

end MessageGateway
