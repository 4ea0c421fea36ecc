import MessageGateway.Proofs.Message.Decoding

/-!
# Where a message ends

A payload that is decoded has a threshold: cut anywhere from there on, and continued by anything,
it decodes to the same record, and cut anywhere before, but behind the tag, it is a failure of the
same kind. A shorter payload cannot give another record, because one kind reads what lies behind
its tag in one way only.

## Main definitions

* `MessageGateway.Scope.IsThreshold`.

## Main results

* `MessageGateway.Scope.existsUnique_threshold`.
-/

namespace MessageGateway

namespace Scope

variable {mode : TagMode} {scope : Scope} {kind : Kind} {raw body : Bytes} {r : Record}
  {values : kind.layout.Values} {m n k : Nat}

/-- The number of bytes from which on a payload, however it goes on, decodes to a record, and below
which it fails. -/
structure IsThreshold (mode : TagMode) (scope : Scope) (raw : Bytes) (r : Record) (n : Nat) :
    Prop where
  tagSize_lt : tagSize < n
  le_length : n ≤ raw.length
  decoded : ∀ k, n ≤ k → k ≤ raw.length → ∀ t,
    (scope.decode mode (raw.take k ++ t)).value = .ok (.decoded r)
  failed : ∀ k, tagSize ≤ k → k < n → ∃ e : OutOfBounds,
    (scope.decode mode (raw.take k)).value = .ok (.failure
      ⟨scope.label, r.kind.name, .outOfBounds e, tagOf raw, Hex.encode (raw.take k)⟩)

/-- A threshold is not above another: there the payload would be decoded and fail. -/
theorem IsThreshold.le (hm : IsThreshold mode scope raw r m) (hn : IsThreshold mode scope raw r n) :
    m ≤ n := by
  by_contra hlt
  obtain ⟨e, hfailed⟩ := hm.failed n (Nat.le_of_lt hn.tagSize_lt) (Nat.lt_of_not_le hlt)
  have hdecoded := hn.decoded n (Nat.le_refl n) hn.le_length []
  rw [List.append_nil, hfailed] at hdecoded
  cases hdecoded

/-- A body that is cut short is not read. -/
theorem decode_take_error (hbody : kind.layout.Spells body values)
    (hp : kind.tag mode ++ body <+: raw) (hk : tagSize ≤ k)
    (hlt : k < tagSize + body.length) : ∃ e, kind.decode (raw.take k) = .error e := by
  cases hdecode : kind.decode (raw.take k) with
  | error e => exact ⟨e, rfl⟩
  | ok r =>
    -- A body that is read from the cut payload lies in the whole one too, so it is its body, for
    -- which the cut payload has no room.
    obtain ⟨body', values', hbody', hp', -⟩ := Kind.decode_eq_ok_iff.mp hdecode
    have hraw : body <+: raw.drop tagSize :=
      ((append_prefix_iff (kind.length_tag mode)).mp hp).2
    have hraw' : body' <+: raw.drop tagSize := hp'.trans ((List.take_prefix k raw).drop tagSize)
    have hread : Follows raw tagSize kind.layout.Spells (kind.layout.read raw tagSize) :=
      kind.layout.follows_read tagSize
    obtain ⟨rfl, -⟩ := hread.unique hbody hraw hbody' hraw'
    have hlen := hp'.length_le
    rw [List.length_drop, List.length_take] at hlen
    omega

/-- A payload of a tag and a body has the end of the body as its threshold. -/
theorem isThreshold_of_spells (hkind : kind ∈ scope.kinds) (hbody : kind.layout.Spells body values)
    (hp : kind.tag mode ++ body <+: raw) :
    IsThreshold mode scope raw (Record.ofValues kind values (kind.layout.fits_of_spells hbody))
      (tagSize + body.length) where
  tagSize_lt := Nat.lt_add_of_pos_right (Kind.length_pos_of_spells hbody)
  le_length := by
    have hlen := hp.length_le
    rwa [List.length_append, Kind.length_tag] at hlen
  decoded k hk _ t := by
    have hcut : kind.tag mode ++ body <+: raw.take k := by
      refine List.prefix_take_iff.mpr ⟨hp, ?_⟩
      rwa [List.length_append, Kind.length_tag]
    exact decode_eq_decoded_iff.mpr
      ⟨kind, hkind, body, values, hbody, List.prefix_append_of_prefix hcut, rfl⟩
  failed k hk hlt := by
    have htag : kind.tag mode <+: raw := (List.prefix_append _ body).trans hp
    have hcut : kind.tag mode <+: raw.take k :=
      List.prefix_take_iff.mpr ⟨htag, by rwa [Kind.length_tag]⟩
    obtain ⟨e, hdecode⟩ := decode_take_error hbody hp hk hlt
    refine ⟨e, ?_⟩
    rw [decode_of_tag hkind hcut, hdecode, tagOf_eq hcut, ← tagOf_eq htag]
    rfl

/-- **Threshold of a decoded payload.** A payload that is decoded has exactly one threshold, which
is the offset behind the last field of its kind. -/
theorem existsUnique_threshold (h : (scope.decode mode raw).value = .ok (.decoded r)) :
    ∃ n : Nat, (∃ values, ∃ hread : r.kind.layout.read raw tagSize = .ok (values, (n : Int)),
        r = Record.ofValues r.kind values (r.kind.layout.fits_of_read hread)) ∧
      IsThreshold mode scope raw r n ∧ ∀ m, IsThreshold mode scope raw r m → m = n := by
  obtain ⟨kind, hkind, body, values, hbody, hp, rfl⟩ := decode_eq_decoded_iff.mp h
  have hthreshold := isThreshold_of_spells hkind hbody hp
  have hraw := ((append_prefix_iff (kind.length_tag mode)).mp hp).2
  refine ⟨tagSize + body.length, ⟨values, ?_, rfl⟩, hthreshold, fun m hm =>
    Nat.le_antisymm (hm.le hthreshold) (hthreshold.le hm)⟩
  exact (kind.layout.follows_read tagSize values _).mpr ⟨body, hbody, hraw, rfl⟩

/-- One key for a registry takes 54 bytes with the tag. -/
theorem existsUnique_threshold_updateSigners :
    IsThreshold .anchor .instruction
        (Kind.updateSigners.tag .anchor ++
          Kind.updateSigners.layout.encode (1, 2, [List.replicate 32 0xab], 1, ()) ++ [0, 0])
        (Record.ofValues .updateSigners (1, 2, [List.replicate 32 0xab], 1, ()) (by decide))
        54 := by
  have hkind : Kind.updateSigners ∈ Scope.instruction.kinds := by decide
  have hbody := Kind.updateSigners.layout.spells_encode
    (show Kind.updateSigners.layout.Fits (1, 2, [List.replicate 32 0xab], 1, ()) by decide)
  obtain ⟨n, -, hthreshold, hunique⟩ :=
    existsUnique_threshold (decode_of_spells .anchor hkind hbody [0, 0])
  obtain rfl : 54 = n :=
    hunique 54 (isThreshold_of_spells hkind hbody (List.prefix_append _ [0, 0]))
  exact hthreshold

end Scope

end MessageGateway
