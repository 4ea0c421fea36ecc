import MessageGateway.Proofs.Message.Address
import MessageGateway.Proofs.Message.Decoding
import MessageGateway.Proofs.Text.Integer

/-!
# What a record keeps of its message

A record shows enough to read the values of its message back (`Record.values?`): identifiers from
their decimal text, keys from base 58, addresses from their text and length, data and signatures
from hexadecimal, and lists element by element. So the bytes that were read are known from the
record alone, up to the bytes of flags that are set, which may be any but zero.

## Main definitions

* `MessageGateway.Field.recover?`, `MessageGateway.Layout.recover?`,
  `MessageGateway.Record.values?`.
* `MessageGateway.Layout.flagOffsets`, `MessageGateway.Record.flagOffsets`.
* `MessageGateway.Record.Occupies`.

## Main results

* `MessageGateway.Record.values?_ofValues`.
* `MessageGateway.Scope.exists_occupies_of_decoded`.
-/

namespace MessageGateway

/-! ### Reading back what is shown -/

/-- A public key, read back from its text. -/
def Key.recover? (text : String) : Option Bytes :=
  (Key.parse? text).map Subtype.val

/-- A signature and its signer, read back from what is shown. -/
def SignatureText.recover? (e : SignatureText) : Option (Bytes × Bytes) :=
  (Hex.decode? e.signature).bind fun signature =>
    (Key.recover? e.signer).map fun signer => (signature, signer)

/-- The value of a field, read back from what a record shows of it. -/
def Field.recover? : (f : Field) → f.Shown → Option f.shape.Value
  | .flag _, b => some b
  | .count _ _, n => some n
  | .messageId _, s => (Integer.parse? s).bind Int.toNat?
  | .chain _, c => (Integer.parse? c.id).bind Int.toNat?
  | .registry _, r => some r.value
  | .key _, s => Key.recover? s
  | .address _, a => Address.parse? a.text a.length
  | .data _, d => Hex.decode? d.hex
  | .signers _ _, ks => ks.keys.mapM Key.recover?
  | .signatures, es => es.entries.mapM SignatureText.recover?

/-- The values of a layout, read back from what a record shows. -/
def Layout.recover? : (l : Layout) → l.Shown → Option l.Values
  | [], () => some ()
  | f :: l, (shown, rest) =>
    (f.recover? shown).bind fun value => (recover? l rest).map fun values => (value, values)

/-- The values of a message, read back from its record. -/
def Record.values? (r : Record) : Option r.kind.layout.Values :=
  r.kind.layout.recover? r.shown

theorem Integer.recover?_render {width n : Nat} (hwidth : width ≤ 16) (h : n < 256 ^ width) :
    (parse? (render (.ofWidth n hwidth h))).bind Int.toNat? = some n := by
  rw [parse?_render]
  rfl

theorem Key.recover?_render (key : Key) : Key.recover? key.render = some key.val := by
  rw [Key.recover?, Key.parse?_render]
  rfl

/-- What a record shows of a field stands for its value. -/
theorem Field.recover?_render :
    (f : Field) → {v : f.shape.Value} → (h : f.shape.Fits v) → f.recover? (f.render v h) = some v
  | .flag _, _, _ => rfl
  | .count _ _, _, _ => rfl
  | .messageId _, _, h => Integer.recover?_render _ h
  | .chain _, _, h => Integer.recover?_render _ h
  | .registry _, _, _ => rfl
  | .key _, raw, h => Key.recover?_render ⟨raw, h⟩
  | .address _, raw, _ => Address.parse?_render raw
  | .data _, raw, _ => Hex.decode?_encode raw
  | .signers _ _, raws, h => mapM_pmap_eq_some (fun k hk => Key.recover?_render ⟨k, hk⟩) raws h.2
  | .signatures, es, h => by
      refine mapM_pmap_eq_some (fun e he => ?_) es h.2
      rw [SignatureText.recover?, Hex.decode?_encode, Key.recover?_render]
      rfl

/-- What a record shows of a layout stands for its values. -/
theorem Layout.recover?_render : (l : Layout) → {values : l.Values} → (h : l.Fits values) →
    l.recover? (l.render values h) = some values
  | [], (), _ => rfl
  | f :: l, (_, _), h => by
      rw [render, recover?, f.recover?_render h.1, recover?_render l h.2]
      rfl

/-- A record stands for the values that it was made of. -/
theorem Record.values?_ofValues {kind : Kind} {values : kind.layout.Values}
    (h : kind.layout.Fits values) : (Record.ofValues kind values h).values? = some values :=
  kind.layout.recover?_render h

/-! ### Spellings of the same values -/

/-- The offsets of the flags among the bytes of values, of which the first lies at `start`. -/
def Layout.flagOffsets : (l : Layout) → l.Values → (start : Nat) → List Nat
  | [], (), _ => []
  | f :: l, (value, values), start =>
    let rest := flagOffsets l values (start + (f.shape.encode value).length)
    if f.shape = .flag then start :: rest else rest

/-- The offsets of the flags of a message. -/
def Record.flagOffsets (r : Record) : List Nat :=
  (r.values?.map fun values => r.kind.layout.flagOffsets values tagSize).getD []

theorem Shape.Spells.length_eq {s : Shape} {bs : Bytes} {v : s.Value} (h : s.Spells bs v) :
    bs.length = (s.encode v).length := by
  by_cases hs : s = .flag
  · subst hs
    obtain ⟨b, rfl, -⟩ := h
    rfl
  · rw [((spells_iff hs).mp h).2]

/-- Two spellings of a value are the same, or two bytes of a set flag. -/
theorem Shape.Spells.eq_or_flag {s : Shape} {bs bs' : Bytes} {v : s.Value}
    (h : s.Spells bs v) (h' : s.Spells bs' v) :
    bs = bs' ∨ s = .flag ∧ ∃ b b' : UInt8, bs = [b] ∧ bs' = [b'] ∧ b ≠ 0 ∧ b' ≠ 0 := by
  by_cases hs : s = .flag
  · subst hs
    obtain ⟨b, rfl, rfl⟩ := h
    obtain ⟨b', rfl, hset⟩ := h'
    by_cases hb : b = 0
    · have hb' : b' = 0 := by simpa [hb] using hset
      exact .inl (by rw [hb, hb'])
    · rw [bne_iff_ne.mpr hb, eq_comm, bne_iff_ne] at hset
      exact .inr ⟨rfl, b, b', rfl, rfl, hb, hset⟩
  · exact .inl (((spells_iff hs).mp h).2.trans ((spells_iff hs).mp h').2.symm)

theorem Layout.length_eq_of_spells : (l : Layout) → {bs bs' : Bytes} → {values : l.Values} →
    l.Spells bs values → l.Spells bs' values → bs.length = bs'.length
  | [], _, _, (), h, h' => by rw [h, h']
  | _ :: l, _, _, (_, _), ⟨_, _, hfst, hsnd, hbs⟩, ⟨_, _, hfst', hsnd', hbs'⟩ => by
      rw [hbs, hbs', List.length_append, List.length_append, hfst.length_eq, hfst'.length_eq,
        length_eq_of_spells l hsnd hsnd']

/-- Two spellings of the values of a layout differ at most in the bytes of set flags. -/
theorem Layout.getElem?_eq_or_flag : (l : Layout) → {bs bs' : Bytes} → {values : l.Values} →
    l.Spells bs values → l.Spells bs' values → (start i : Nat) →
      bs[i]? = bs'[i]? ∨ start + i ∈ l.flagOffsets values start ∧ bs[i]? ≠ some 0 ∧ bs'[i]? ≠ some 0
  | [], _, _, (), h, h', _, _ => .inl (by rw [h, h'])
  | f :: l, _, _, (value, values), ⟨fst, snd, hfst, hsnd, hbs⟩, ⟨fst', snd', hfst', hsnd', hbs'⟩,
      start, i => by
      have hlen : fst.length = (f.shape.encode value).length := hfst.length_eq
      have hlen' : fst'.length = (f.shape.encode value).length := hfst'.length_eq
      subst hbs hbs'
      rw [List.getElem?_append, List.getElem?_append, hlen, hlen']
      -- The byte is one of the first field, which is a flag where spellings differ, or of the rest.
      by_cases hi : i < (f.shape.encode value).length
      · rw [if_pos hi, if_pos hi]
        rcases hfst.eq_or_flag hfst' with rfl | ⟨hflag, b, b', rfl, rfl, hb, hb'⟩
        · exact .inl rfl
        · have hzero : i = 0 := by
            rw [← hlen, List.length_singleton] at hi
            omega
          subst hzero
          refine .inr ⟨?_, by simpa using hb, by simpa using hb'⟩
          simp [flagOffsets, hflag]
      · rw [if_neg hi, if_neg hi]
        have hsum : start + (f.shape.encode value).length + (i - (f.shape.encode value).length) =
            start + i := by omega
        have hrest := getElem?_eq_or_flag l hsnd hsnd' (start + (f.shape.encode value).length)
          (i - (f.shape.encode value).length)
        rw [hsum] at hrest
        refine hrest.imp id fun ⟨hmem, hne, hne'⟩ => ⟨?_, hne, hne'⟩
        rw [flagOffsets]
        split
        · exact List.mem_cons_of_mem start hmem
        · exact hmem

/-! ### Payloads with one record -/

/-- The first `n` bytes of a payload are the tag of a record's kind and a spelling of the values
that are read back from the record. -/
def Record.Occupies (mode : TagMode) (r : Record) (raw : Bytes) (n : Nat) : Prop :=
  n ≤ raw.length ∧ ∃ body values, r.values? = some values ∧ r.kind.layout.Spells body values ∧
    raw.take n = r.kind.tag mode ++ body

namespace Record.Occupies

variable {mode : TagMode} {raw raw' : Bytes} {r : Record} {n n' : Nat}

/-- A record occupies as many bytes in one payload as in another. -/
theorem unique (h : r.Occupies mode raw n) (h' : r.Occupies mode raw' n') : n = n' := by
  obtain ⟨hle, body, values, hvalues, hbody, htake⟩ := h
  obtain ⟨hle', body', values', hvalues', hbody', htake'⟩ := h'
  obtain rfl : values = values' := Option.some.inj (hvalues.symm.trans hvalues')
  have hlen := congrArg List.length htake
  have hlen' := congrArg List.length htake'
  rw [List.length_take, List.length_append, Nat.min_eq_left hle] at hlen
  rw [List.length_take, List.length_append, Nat.min_eq_left hle'] at hlen'
  rw [hlen, hlen', r.kind.layout.length_eq_of_spells hbody hbody']

/-- The bytes that a record occupies differ at most in set flags. -/
theorem getElem?_eq_or_flag (h : r.Occupies mode raw n) (h' : r.Occupies mode raw' n) {i : Nat}
    (hi : i < n) :
    raw[i]? = raw'[i]? ∨ i ∈ r.flagOffsets ∧ raw[i]? ≠ some 0 ∧ raw'[i]? ≠ some 0 := by
  obtain ⟨-, body, values, hvalues, hbody, htake⟩ := h
  obtain ⟨-, body', values', hvalues', hbody', htake'⟩ := h'
  obtain rfl : values = values' := Option.some.inj (hvalues.symm.trans hvalues')
  have hget : raw[i]? = (r.kind.tag mode ++ body)[i]? := by
    rw [← htake, List.getElem?_take_of_lt hi]
  have hget' : raw'[i]? = (r.kind.tag mode ++ body')[i]? := by
    rw [← htake', List.getElem?_take_of_lt hi]
  rw [hget, hget', List.getElem?_append, List.getElem?_append, Kind.length_tag]
  by_cases htag : i < tagSize
  · rw [if_pos htag, if_pos htag]
    exact .inl rfl
  · have hoffsets : r.flagOffsets = r.kind.layout.flagOffsets values tagSize := by
      rw [Record.flagOffsets, hvalues]
      rfl
    have hflag := r.kind.layout.getElem?_eq_or_flag hbody hbody' tagSize (i - tagSize)
    rw [Nat.add_sub_cancel' (Nat.le_of_not_lt htag)] at hflag
    rw [if_neg htag, if_neg htag, hoffsets]
    exact hflag

end Record.Occupies

namespace Scope

variable {mode : TagMode} {scope : Scope} {raw : Bytes} {r : Record}

/-- The bytes that were read are known from the record. -/
theorem exists_occupies_of_decoded (h : (scope.decode mode raw).value = .ok (.decoded r)) :
    ∃ n, tagSize ≤ n ∧ r.Occupies mode raw n := by
  obtain ⟨kind, -, body, values, hbody, hp, rfl⟩ := decode_eq_decoded_iff.mp h
  refine ⟨tagSize + body.length, Nat.le_add_right _ _, ?_, body, values,
    Record.values?_ofValues _, hbody, ?_⟩
  · have hlen := hp.length_le
    rwa [List.length_append, Kind.length_tag] at hlen
  · have htake := List.prefix_iff_eq_take.mp hp
    rw [List.length_append, Kind.length_tag] at htake
    exact htake.symm

/-- **Decoding loses nothing.** The bytes of a payload that were read are the tag of the record's
kind and a spelling of the values that the record shows. Every payload with the same record has
as many such bytes, and they differ at most in the bytes of set flags. -/
theorem decode_loses_nothing (h : (scope.decode mode raw).value = .ok (.decoded r)) :
    ∃ n, tagSize ≤ n ∧ r.Occupies mode raw n ∧
      ∀ raw', (scope.decode mode raw').value = .ok (.decoded r) →
        r.Occupies mode raw' n ∧ ∀ i < n, raw[i]? = raw'[i]? ∨
          i ∈ r.flagOffsets ∧ raw[i]? ≠ some 0 ∧ raw'[i]? ≠ some 0 := by
  obtain ⟨n, hn, hraw⟩ := exists_occupies_of_decoded h
  refine ⟨n, hn, hraw, fun raw' h' => ?_⟩
  obtain ⟨n', -, hraw'⟩ := exists_occupies_of_decoded h'
  obtain rfl := hraw.unique hraw'
  exact ⟨hraw', fun i hi => hraw.getElem?_eq_or_flag hraw' hi⟩

/-- A message about a registry, with the byte of its flag and what follows it. -/
def registryPayload (flag : UInt8) (rest : Bytes) : Bytes :=
  Kind.setRegistryEnabled.tag .static ++ [2, 5, 0, 0, 0, 0, 0, 0, 0, flag] ++ rest

theorem decode_loses_nothing_registryPayload :
    ∃ (r : Record) (n : Nat), r.Occupies .static (registryPayload 7 [0xff]) n ∧
      r.Occupies .static (registryPayload 1 []) n ∧
      ∀ i < n, (registryPayload 7 [0xff])[i]? = (registryPayload 1 [])[i]? ∨ i ∈ r.flagOffsets := by
  have hkind : Kind.setRegistryEnabled ∈ Scope.instruction.kinds := by decide
  have hbody (b : UInt8) (hb : true = (b != 0)) : Kind.setRegistryEnabled.layout.Spells
      [2, 5, 0, 0, 0, 0, 0, 0, 0, b] (2, 5, true, ()) :=
    ⟨[2], _, ⟨by decide, rfl⟩, ⟨[5, 0, 0, 0, 0, 0, 0, 0], [b], ⟨by decide, rfl⟩,
      ⟨[b], [], ⟨b, rfl, hb⟩, rfl, rfl⟩, rfl⟩, rfl⟩
  have hdecode := decode_of_spells .static hkind (hbody 7 rfl) [0xff]
  have hdecode' := decode_of_spells .static hkind (hbody 1 rfl) []
  obtain ⟨n, -, hraw, hall⟩ := decode_loses_nothing hdecode
  obtain ⟨hraw', hdiffer⟩ := hall _ hdecode'
  exact ⟨_, n, hraw, hraw', fun i hi => (hdiffer i hi).imp id fun h => h.1⟩

end Scope

end MessageGateway
