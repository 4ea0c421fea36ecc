import MessageGateway.Message.Decoding
import MessageGateway.Proofs.Message.Layout
import MessageGateway.Proofs.Message.Tag

/-!
# What decoding gives

A message that starts with the tag of a kind of the table is read by the decoder of that kind
(`Scope.decode_of_tag`). So the payloads that a table decodes are known exactly: they start with
the tag of one of its kinds and a spelling of values of that kind, and the record shows these values
(`Scope.decode_eq_decoded_iff`). What follows has no influence.

## Main results

* `MessageGateway.Kind.decode_eq_ok_iff_read`, `MessageGateway.Kind.decode_eq_ok_iff`.
* `MessageGateway.Scope.decode_of_tag`.
* `MessageGateway.Scope.decode_eq_decoded_iff_read`, `MessageGateway.Scope.decode_eq_decoded_iff`.
* `MessageGateway.Scope.decode_of_spells`.
-/

namespace MessageGateway

namespace Kind

variable {kind : Kind} {raw : Bytes} {r : Record}

/-- The record that a kind's decoder gives shows the values that are read. -/
theorem decode_of_read_eq_ok {values : kind.layout.Values} {next : Int}
    (h : kind.layout.read raw tagSize = .ok (values, next)) :
    kind.decode raw = .ok (Record.ofValues kind values (kind.layout.fits_of_read h)) := by
  unfold decode
  split
  next hread => cases hread.symm.trans h
  next hread =>
    obtain ⟨rfl, -⟩ := Prod.mk.inj (Except.ok.inj (hread.symm.trans h))
    rfl

/-- What is refused to be read is refused by the decoder. -/
theorem decode_of_read_eq_error {e : OutOfBounds} (h : kind.layout.read raw tagSize = .error e) :
    kind.decode raw = .error e := by
  unfold decode
  split
  next hread =>
    obtain rfl := Except.error.inj (hread.symm.trans h)
    rfl
  next hread => cases hread.symm.trans h

/-- The records that a kind's decoder gives are those of the values that are read behind the tag. -/
theorem decode_eq_ok_iff_read : kind.decode raw = .ok r ↔
    ∃ values next, ∃ h : kind.layout.read raw tagSize = .ok (values, next),
      r = Record.ofValues kind values (kind.layout.fits_of_read h) := by
  constructor
  · intro h
    unfold decode at h
    split at h
    next => cases h
    next hread => exact ⟨_, _, hread, (Except.ok.inj h).symm⟩
  · rintro ⟨values, next, hread, rfl⟩
    exact decode_of_read_eq_ok hread

/-- These are spelled there. -/
theorem decode_eq_ok_iff : kind.decode raw = .ok r ↔
    ∃ body values, ∃ hbody : kind.layout.Spells body values, body <+: raw.drop tagSize ∧
      r = Record.ofValues kind values (kind.layout.fits_of_spells hbody) := by
  have hread : Follows raw tagSize _ (kind.layout.read raw tagSize) :=
    kind.layout.follows_read tagSize
  rw [decode_eq_ok_iff_read]
  constructor
  · rintro ⟨values, next, hvalues, rfl⟩
    obtain ⟨body, hbody, hp, -⟩ := (hread values next).mp hvalues
    exact ⟨body, values, hbody, hp, rfl⟩
  · rintro ⟨body, values, hbody, hp, rfl⟩
    exact ⟨values, _, (hread values _).mpr ⟨body, hbody, hp, rfl⟩, rfl⟩

end Kind

/-- A tag and a body lie at the start of a message. -/
theorem append_prefix_iff {tag body raw : Bytes} (htag : tag.length = tagSize) :
    tag ++ body <+: raw ↔ tag <+: raw ∧ body <+: raw.drop tagSize := by
  have h : tag ++ body <+: raw.drop 0 ↔ _ := append_prefix_drop_iff
  rwa [List.drop_zero, Nat.zero_add, htag] at h

namespace Scope

variable {mode : TagMode} {scope : Scope} {kind : Kind} {raw : Bytes} {r : Record}

theorem tagOf_eq (htag : kind.tag mode <+: raw) : tagOf raw = Hex.encode (kind.tag mode) := by
  have h := List.prefix_iff_eq_take.mp htag
  rw [Kind.length_tag] at h
  rw [tagOf, ← h]

/-- A message is read by the decoder of the kind that has its tag. -/
theorem decode_of_tag (hkind : kind ∈ scope.kinds) (htag : kind.tag mode <+: raw) :
    scope.decode mode raw = match kind.decode raw with
      | .ok record => .silent (.ok (.decoded record))
      | .error e =>
        ⟨.ok (.failure ⟨scope.label, kind.name, .outOfBounds e, tagOf raw, Hex.encode raw⟩),
          [⟨.debug, s!"[DECODER] {scope.label} {kind.name} failed: {e.message}"⟩]⟩ := by
  have hlen : ¬ raw.length < tagSize := by
    have h := htag.length_le
    rw [Kind.length_tag] at h
    exact Nat.not_lt.mpr h
  have hkindOf : (scope.dispatcher mode).kindOf? (tagOf raw) = some kind.name := by
    simp only [tagOf_eq htag, dispatcher, kindTagged?_eq_some_iff.mpr ⟨hkind, rfl⟩,
      Option.map_some]
  have hdecode : (scope.dispatcher mode).decode kind.name raw = kind.decoder raw := by
    simp only [Dispatcher.decode, dispatcher, kindNamed?_name hkind, Option.map_some]
  simp only [decode, Dispatcher.run, if_neg hlen, hkindOf, hdecode, Kind.decoder]
  cases kind.decode raw <;> rfl

/-- A decoded message has the tag of a kind of the table, whose decoder gives the record. -/
theorem exists_kind_of_decoded (h : (scope.decode mode raw).value = .ok (.decoded r)) :
    ∃ kind ∈ scope.kinds, kind.tag mode <+: raw ∧ kind.decode raw = .ok r := by
  cases hkind : scope.kindTagged? mode (tagOf raw) with
  | none =>
    simp only [decode, Dispatcher.run, dispatcher, hkind, Option.map_none] at h
    split at h <;> simp [Logged.silent] at h
  | some kind =>
    obtain ⟨hmem, htag⟩ := kindTagged?_eq_some_iff.mp hkind
    have hprefix : kind.tag mode <+: raw := htag ▸ List.take_prefix tagSize raw
    refine ⟨kind, hmem, hprefix, ?_⟩
    rw [decode_of_tag hmem hprefix] at h
    cases hdecode : kind.decode raw with
    | ok record =>
      rw [hdecode] at h
      cases h
      rfl
    | error e =>
      rw [hdecode] at h
      cases h

/-- A payload is decoded exactly when the fields of the kind whose tag it starts with are read from
it, and the record shows these. -/
theorem decode_eq_decoded_iff_read : (scope.decode mode raw).value = .ok (.decoded r) ↔
    ∃ kind ∈ scope.kinds, kind.tag mode <+: raw ∧ ∃ values, ∃ hfits : kind.layout.Fits values,
      (∃ next, kind.layout.read raw tagSize = .ok (values, next)) ∧
        r = Record.ofValues kind values hfits := by
  constructor
  · intro h
    obtain ⟨kind, hkind, htag, hdecode⟩ := exists_kind_of_decoded h
    obtain ⟨values, next, hread, rfl⟩ := Kind.decode_eq_ok_iff_read.mp hdecode
    exact ⟨kind, hkind, htag, values, _, ⟨next, hread⟩, rfl⟩
  · rintro ⟨kind, hkind, htag, values, -, ⟨next, hread⟩, rfl⟩
    rw [decode_of_tag hkind htag, Kind.decode_of_read_eq_ok hread]
    rfl

/-- The payloads that a table decodes start with a tag of the table and a spelling of values of its
kind, which the record shows. -/
theorem decode_eq_decoded_iff :
    (scope.decode mode raw).value = .ok (.decoded r) ↔
      ∃ kind ∈ scope.kinds, ∃ body values, ∃ hbody : kind.layout.Spells body values,
        kind.tag mode ++ body <+: raw ∧
          r = Record.ofValues kind values (kind.layout.fits_of_spells hbody) := by
  constructor
  · intro h
    obtain ⟨kind, hkind, htag, hdecode⟩ := exists_kind_of_decoded h
    obtain ⟨body, values, hbody, hp, hr⟩ := Kind.decode_eq_ok_iff.mp hdecode
    exact ⟨kind, hkind, body, values, hbody,
      (append_prefix_iff (kind.length_tag mode)).mpr ⟨htag, hp⟩, hr⟩
  · rintro ⟨kind, hkind, body, values, hbody, hp, rfl⟩
    obtain ⟨htag, hp⟩ := (append_prefix_iff (kind.length_tag mode)).mp hp
    rw [decode_of_tag hkind htag, Kind.decode_eq_ok_iff.mpr ⟨body, values, hbody, hp, rfl⟩]
    rfl

/-- A tag and a spelling of values are decoded to these values, whatever follows them. -/
theorem decode_of_spells (mode : TagMode) (hkind : kind ∈ scope.kinds) {body : Bytes}
    {values : kind.layout.Values} (hbody : kind.layout.Spells body values) (rest : Bytes) :
    (scope.decode mode (kind.tag mode ++ body ++ rest)).value =
      .ok (.decoded (Record.ofValues kind values (kind.layout.fits_of_spells hbody))) :=
  decode_eq_decoded_iff.mpr ⟨kind, hkind, body, values, hbody, List.prefix_append _ rest, rfl⟩

end Scope

end MessageGateway
