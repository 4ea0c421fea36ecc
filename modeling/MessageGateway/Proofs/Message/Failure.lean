import MessageGateway.Proofs.Message.Outcome
import MessageGateway.Proofs.Wire.Refusal

/-!
# What a failure tells

The requests that each kind of messages makes, written out field by field in the order of the wire
(`Kind.spans`), without layouts. A message of a known kind fails exactly when one of its requests
does not fit, and the failure tells of the first of these: the name of the field, or of its count,
the offset behind all earlier requests, how many bytes are needed and how many there are.

## Main definitions

* `MessageGateway.Kind.spans`, `MessageGateway.Kind.requests`.
* `MessageGateway.Kind.FailsAt`.

## Main results

* `MessageGateway.Layout.answers_read`.
* `MessageGateway.Kind.decode_eq_error_iff`, `MessageGateway.Kind.exists_decode_eq_ok_iff`.
* `MessageGateway.Scope.failure_tells_first_misfit`.
-/

namespace MessageGateway

/-! ### Requests one behind the other -/

namespace Request

variable {buffer : Bytes} {offset : Nat} {requests requests' : List Request} {r : Request}

/-- Every request starts where the one before it ends. -/
def AreConsecutive : (offset : Nat) → List Request → Prop
  | _, [] => True
  | offset, r :: requests => r.offset = offset ∧ AreConsecutive (offset + r.size) requests

private theorem add_total_cons (offset : Nat) (r : Request) (requests : List Request) :
    offset + total (r :: requests) = offset + r.size + total requests := by
  rw [total, Nat.add_assoc]

theorem areConsecutive_append : (requests : List Request) → {offset : Nat} →
    (AreConsecutive offset (requests ++ requests') ↔
      AreConsecutive offset requests ∧ AreConsecutive (offset + total requests) requests')
  | [], _ => by simp [AreConsecutive, total]
  | r :: requests, offset => by
      rw [List.cons_append, AreConsecutive, AreConsecutive, areConsecutive_append requests,
        add_total_cons, and_assoc]

/-- Requests fit when the last of them ends within the buffer. -/
theorem AreConsecutive.forall_fits_iff : {requests : List Request} → {offset : Nat} →
    AreConsecutive offset requests → offset ≤ buffer.length →
      ((∀ r ∈ requests, r.Fits buffer) ↔ offset + total requests ≤ buffer.length)
  | [], _, _, hoffset => by simpa [total] using hoffset
  | r :: requests, offset, ⟨hr, hrest⟩, hoffset => by
      have hfits : r.Fits buffer ↔ offset + r.size ≤ buffer.length := by
        rw [fits_iff]
        omega
      rw [List.forall_mem_cons, hfits, add_total_cons]
      constructor
      · rintro ⟨hfirst, hothers⟩
        exact (hrest.forall_fits_iff hfirst).mp hothers
      · intro hend
        have hfirst : offset + r.size ≤ buffer.length := Nat.le_trans (Nat.le_add_right _ _) hend
        exact ⟨hfirst, (hrest.forall_fits_iff hfirst).mpr hend⟩

/-- A request behind others starts where they end. -/
theorem AreConsecutive.offset_eq {later : List Request}
    (h : AreConsecutive offset (requests ++ r :: later)) : r.offset = offset + total requests :=
  ((areConsecutive_append requests).mp h).2.1

/-- Each request that fits lies within the buffer. -/
theorem AreConsecutive.le_length (h : AreConsecutive offset requests)
    (hoffset : offset ≤ buffer.length) (hfits : ∀ r ∈ requests, r.Fits buffer) :
    ∀ r ∈ requests, r.offset + r.size ≤ buffer.length := by
  intro r hr
  obtain ⟨earlier, later, rfl⟩ := List.append_of_mem hr
  obtain ⟨hearlier, hstart, -⟩ := (areConsecutive_append earlier).mp h
  have hend := (hearlier.forall_fits_iff hoffset).mp fun e he =>
    hfits e (List.mem_append_left _ he)
  have hfit := fits_iff.mp (hfits r hr)
  omega

end Request

namespace Span

/-- What a field is reported under. -/
def names : Span → List String
  | .fixed name _ => [name]
  | .counted name suffix _ => [name ++ suffix, name]

/-- The requests of fields are reported under the names of these. -/
theorem exists_mem_names_of_mem_walk {buffer : Bytes} {r : Request} :
    {spans : List Span} → {offset : Nat} → r ∈ walk buffer spans offset →
      ∃ s ∈ spans, r.field ∈ s.names
  | s :: spans, offset, h => by
      rcases List.mem_append.mp h with hhere | hrest
      · refine ⟨s, List.mem_cons_self, ?_⟩
        cases s with
        | fixed name size =>
          rw [List.mem_singleton.mp hhere]
          exact List.mem_singleton_self name
        | counted name suffix unit =>
          simp only [requests, List.mem_cons, List.not_mem_nil, or_false] at hhere
          rcases hhere with rfl | rfl
          · exact List.mem_cons_self
          · exact List.mem_cons_of_mem _ List.mem_cons_self
      · obtain ⟨s', hs', hname⟩ := exists_mem_names_of_mem_walk hrest
        exact ⟨s', List.mem_cons_of_mem s hs', hname⟩

theorem areConsecutive_requests (buffer : Bytes) (offset : Nat) (s : Span) :
    Request.AreConsecutive offset (s.requests buffer offset) := by
  cases s with
  | fixed name size => exact ⟨rfl, trivial⟩
  | counted name suffix unit => exact ⟨rfl, rfl, trivial⟩

theorem areConsecutive_walk (buffer : Bytes) : (spans : List Span) → (offset : Nat) →
    Request.AreConsecutive offset (walk buffer spans offset)
  | [], _ => trivial
  | s :: spans, offset =>
    (Request.areConsecutive_append _).mpr
      ⟨areConsecutive_requests buffer offset s, areConsecutive_walk buffer spans _⟩

end Span

/-! ### The requests of a message -/

/-- What is read of the fields of a layout. -/
def Layout.spans (l : Layout) : List Span :=
  l.map fun f => f.shape.span f.name

/-- A read of a layout answers the requests of its fields. -/
theorem Layout.answers_read {buffer : Bytes} : (l : Layout) → (offset : Nat) →
    Answers buffer offset (Span.walk buffer l.spans offset) (l.read buffer offset)
  | [], _ => ⟨(), rfl⟩
  | f :: l, _ =>
    f.shape.answers_read.bind fun value _ =>
      (answers_read l _).map (Prod.mk value) fun _ _ => rfl

namespace Kind

/-- What is read of the fields that every message about a signer registry starts with, and of
those of its kind. -/
def registrySpans (rest : List Span) : List Span :=
  .fixed "registry_type" 1 :: .fixed "chain_id" 8 :: rest

/-- What is read of the fields of the two cross-chain messages. -/
def crossChainSpans : List Span :=
  [.fixed "tx_id" 16, .fixed "source_chain_id" 8, .fixed "dest_chain_id" 8,
    .counted "sender" ".length" 1, .counted "recipient" ".length" 1,
    .counted "on_chain_data" ".length" 1, .counted "off_chain_data" ".length" 1,
    .counted "signatures" ".count" 96]

/-- What is read of the fields of a kind, in the order of the wire. -/
def spans : Kind → List Span
  | .initializeGateway => [.fixed "chain_id" 8]
  | .sendMessage =>
    [.fixed "tx_id" 16, .counted "recipient" ".length" 1, .fixed "dest_chain_id" 8,
      .counted "chain_data" ".length" 1, .fixed "confirmations" 2]
  | .createTxPda | .processMessage => crossChainSpans
  | .setSystemEnabled => [.fixed "enabled" 1]
  | .initializeSignerRegistry =>
    registrySpans [.counted "initial_signers" ".count" 32, .fixed "required_signatures" 1]
  | .updateSigners =>
    registrySpans [.counted "new_signers" ".count" 32, .fixed "new_required_signatures" 1]
  | .addSigner => registrySpans [.fixed "new_signer" 32]
  | .removeSigner => registrySpans [.fixed "signer_to_remove" 32]
  | .updateThreshold => registrySpans [.fixed "new_threshold" 1]
  | .setRegistryEnabled => registrySpans [.fixed "enabled" 1]
  | .sendRequested =>
    [.fixed "tx_id" 16, .fixed "sender" 32, .counted "recipient" ".length" 1,
      .fixed "dest_chain_id" 8, .counted "chain_data" ".length" 1, .fixed "confirmations" 2]
  | .txPdaCreated => [.fixed "tx_id" 16, .fixed "source_chain_id" 8]
  | .messageProcessed => [.fixed "tx_id" 16, .fixed "source_chain_id" 8, .fixed "relayer" 32]
  | .systemStatusChanged => [.fixed "enabled" 1]

/-- These are the fields of its layout. -/
theorem spans_layout (kind : Kind) : kind.layout.spans = kind.spans := by
  cases kind <;> rfl

/-- The requests of a message of a kind, whose fields lie behind its tag. -/
def requests (kind : Kind) (raw : Bytes) : List Request :=
  Span.walk raw kind.spans 8

/-- Reading the fields of a message answers its requests. -/
theorem answers_requests (kind : Kind) (raw : Bytes) :
    Answers raw tagSize (kind.requests raw) (kind.layout.read raw tagSize) := by
  rw [requests, ← spans_layout]
  exact kind.layout.answers_read tagSize

variable {kind : Kind} {raw : Bytes} {r : Request} {e : OutOfBounds}

/-- The first request that does not fit is what the decoder refuses a message for. -/
theorem decode_of_firstMisfit? (h : Request.firstMisfit? raw (kind.requests raw) = some r) :
    kind.decode raw = .error (r.refusal raw) :=
  decode_of_read_eq_error ((kind.answers_requests raw).eq_error h)

theorem exists_decode_of_firstMisfit? (h : Request.firstMisfit? raw (kind.requests raw) = none) :
    ∃ record, kind.decode raw = .ok record := by
  obtain ⟨values, hvalues⟩ := (kind.answers_requests raw).exists_eq_ok h
  exact ⟨_, decode_of_read_eq_ok hvalues⟩

/-- A message is refused for the first request that does not fit, and for nothing else. -/
theorem decode_eq_error_iff : kind.decode raw = .error e ↔
    ∃ r, Request.firstMisfit? raw (kind.requests raw) = some r ∧ r.refusal raw = e := by
  cases hfirst : Request.firstMisfit? raw (kind.requests raw) with
  | none =>
    obtain ⟨record, hrecord⟩ := exists_decode_of_firstMisfit? hfirst
    simp [hrecord]
  | some r => simp [decode_of_firstMisfit? hfirst]

/-- A message is read exactly when all of its requests fit. -/
theorem exists_decode_eq_ok_iff : (∃ record, kind.decode raw = .ok record) ↔
    ∀ r ∈ kind.requests raw, r.Fits raw := by
  have hnone : Request.firstMisfit? raw (kind.requests raw) = none ↔
      ∀ r ∈ kind.requests raw, r.Fits raw := by
    simp [Request.firstMisfit?]
  rw [← hnone]
  cases hfirst : Request.firstMisfit? raw (kind.requests raw) with
  | none => simp [exists_decode_of_firstMisfit? hfirst]
  | some r => simp [decode_of_firstMisfit? hfirst]

/-- The requests of a message lie one behind the other. -/
theorem areConsecutive_requests (kind : Kind) (raw : Bytes) :
    Request.AreConsecutive tagSize (kind.requests raw) :=
  Span.areConsecutive_walk raw kind.spans tagSize

/-- So it is read exactly when the last of them ends within the message. -/
theorem exists_decode_eq_ok_iff_le_length (hlen : tagSize ≤ raw.length) :
    (∃ record, kind.decode raw = .ok record) ↔
      tagSize + Request.total (kind.requests raw) ≤ raw.length :=
  exists_decode_eq_ok_iff.trans ((kind.areConsecutive_requests raw).forall_fits_iff hlen)

/-! ### Names -/

private theorem bracket_notMem_names (kind : Kind) :
    ∀ s ∈ kind.spans, ∀ name ∈ s.names, '[' ∉ name.toList := by
  cases kind <;> decide +kernel

/-- No request is reported as an element of a list, which has its index in brackets. -/
theorem bracket_notMem_field (h : r ∈ kind.requests raw) : '[' ∉ r.field.toList := by
  obtain ⟨s, hs, hname⟩ := Span.exists_mem_names_of_mem_walk h
  exact kind.bracket_notMem_names s hs r.field hname

/-! ### The first request that does not fit -/

/-- The first request of a message that does not fit, and those before it. -/
structure FailsAt (kind : Kind) (raw : Bytes) (earlier : List Request) (r : Request) : Prop where
  prefix_requests : earlier ++ [r] <+: kind.requests raw
  /-- All earlier requests fit. -/
  le_length : ∀ e ∈ earlier, e.offset + e.size ≤ raw.length
  /-- The request lies behind the tag and the earlier ones, within the message. -/
  offset_eq : r.offset = 8 + Request.total earlier
  offset_le : r.offset ≤ raw.length
  /-- More is needed than there is. -/
  lt_size : raw.length - r.offset < r.size
  /-- It is not for an element of a list. -/
  bracket_notMem : '[' ∉ r.field.toList

/-- How the first request that does not fit is reported. -/
theorem FailsAt.refusal_eq {earlier : List Request} (h : kind.FailsAt raw earlier r) :
    r.refusal raw = ⟨r.field, r.offset, r.size, (raw.length - r.offset : Nat)⟩ := by
  have hle := h.offset_le
  unfold Request.refusal available
  congr 1
  omega

/-- A message that is long enough for a tag fails at the first request that does not fit. -/
theorem exists_failsAt_iff (hlen : tagSize ≤ raw.length) :
    (∃ earlier, kind.FailsAt raw earlier r) ↔
      Request.firstMisfit? raw (kind.requests raw) = some r := by
  have hconsecutive := kind.areConsecutive_requests raw
  simp only [Request.firstMisfit?, List.find?_eq_some_iff_append, Bool.not_eq_true',
    decide_eq_false_iff_not, Bool.not_not, decide_eq_true_eq]
  constructor
  · rintro ⟨earlier, h⟩
    obtain ⟨later, hlater⟩ := h.prefix_requests
    refine ⟨fun hfits => ?_, earlier, later, ?_, fun e he =>
      Request.fits_iff.mpr (.inl (h.le_length e he))⟩
    · have hlt := h.lt_size
      rw [Request.fits_iff] at hfits
      omega
    · rw [← hlater, List.append_assoc, List.singleton_append]
  · rintro ⟨hmisfit, earlier, later, hrequests, hfits⟩
    rw [hrequests] at hconsecutive
    have hearlier := ((Request.areConsecutive_append earlier).mp hconsecutive).1
    have hoffset := hconsecutive.offset_eq
    have hend := (hearlier.forall_fits_iff hlen).mp hfits
    refine ⟨earlier, ⟨later, ?_⟩, hearlier.le_length hlen hfits, hoffset, ?_, ?_, ?_⟩
    · rw [hrequests, List.append_assoc, List.singleton_append]
    · rw [hoffset]
      exact hend
    · rw [Request.fits_iff] at hmisfit
      omega
    · refine bracket_notMem_field (?_ : r ∈ kind.requests raw)
      rw [hrequests]
      exact List.mem_append_right earlier List.mem_cons_self

end Kind

namespace Scope

variable {mode : TagMode} {scope : Scope} {raw : Bytes} {f : DecodeFailure} {r : Record}

/-- A payload fails exactly when the kind whose tag it starts with cannot be read from it. -/
theorem decode_eq_failure_iff : (scope.decode mode raw).value = .ok (.failure f) ↔
    ∃ kind ∈ scope.kinds, kind.tag mode <+: raw ∧ ∃ e, kind.decode raw = .error e ∧
      f = ⟨scope.label, kind.name, .outOfBounds e, tagOf raw, Hex.encode raw⟩ := by
  constructor
  · intro h
    rcases Nat.lt_or_ge raw.length tagSize with hshort | hlong
    · rw [decode_eq_bufferTooSmall hshort] at h
      cases h
    · rw [decode_eq_outcome hlong] at h
      have houtcome : scope.outcome mode raw = .failure f := Except.ok.inj h
      obtain ⟨kind, hkind, e, hdecode⟩ := isFailure_outcome_iff.mp ⟨f, houtcome⟩
      obtain ⟨hmem, htag⟩ := kindTagged?_tagOf_eq_some_iff.mp hkind
      simp only [outcome, hkind, hdecode] at houtcome
      exact ⟨kind, hmem, htag, e, hdecode, (Outcome.failure.inj houtcome).symm⟩
  · rintro ⟨kind, hmem, htag, e, hdecode, rfl⟩
    rw [decode_of_tag hmem htag, hdecode]

/-- A payload fails exactly when one of the requests of its kind does not fit, and with the first. -/
theorem decode_eq_failure_iff_failsAt : (scope.decode mode raw).value = .ok (.failure f) ↔
    ∃ kind ∈ scope.kinds, kind.tag mode <+: raw ∧ ∃ earlier r, kind.FailsAt raw earlier r ∧
      f = ⟨scope.label, kind.name,
        .outOfBounds ⟨r.field, r.offset, r.size, (raw.length - r.offset : Nat)⟩,
        tagOf raw, Hex.encode raw⟩ ∧
      f.error.message = s!"Out of bounds reading {r.field} at offset {r.offset}: " ++
        s!"need {r.size} bytes, {raw.length - r.offset} available" := by
  rw [decode_eq_failure_iff]
  refine exists_congr fun kind => and_congr_right fun hmem => and_congr_right fun htag => ?_
  have hlen : tagSize ≤ raw.length := by
    rw [← kind.length_tag mode]
    exact htag.length_le
  constructor
  · rintro ⟨e, hdecode, rfl⟩
    obtain ⟨r, hfirst, rfl⟩ := Kind.decode_eq_error_iff.mp hdecode
    obtain ⟨earlier, hfails⟩ := (Kind.exists_failsAt_iff hlen).mpr hfirst
    rw [hfails.refusal_eq]
    exact ⟨earlier, r, hfails, rfl, rfl⟩
  · rintro ⟨earlier, r, hfails, rfl, -⟩
    have hfirst := (Kind.exists_failsAt_iff hlen).mp ⟨earlier, hfails⟩
    refine ⟨_, Kind.decode_of_firstMisfit? hfirst, ?_⟩
    rw [hfails.refusal_eq]

/-- **What a failure tells.** A payload fails exactly when it starts with the tag of a kind and one
of the requests of that kind does not fit; the failure is of that kind, keeps the payload, and tells
of the first such request where it lies, how much is needed and how much there is. A payload is
decoded exactly when all fields of the kind are read from it. The record shows values that the
fields can hold, so that nothing but 32 bytes is ever rendered as a public key, and rendering cannot
fail. -/
theorem failure_tells_first_misfit :
    ((scope.decode mode raw).value = .ok (.failure f) ↔
      ∃ kind ∈ scope.kinds, kind.tag mode <+: raw ∧ ∃ earlier r, kind.FailsAt raw earlier r ∧
        f = ⟨scope.label, kind.name,
          .outOfBounds ⟨r.field, r.offset, r.size, (raw.length - r.offset : Nat)⟩,
          tagOf raw, Hex.encode raw⟩ ∧
        f.error.message = s!"Out of bounds reading {r.field} at offset {r.offset}: " ++
          s!"need {r.size} bytes, {raw.length - r.offset} available") ∧
      ((scope.decode mode raw).value = .ok (.decoded r) ↔
        ∃ kind ∈ scope.kinds, kind.tag mode <+: raw ∧ ∃ values,
          ∃ hfits : kind.layout.Fits values,
            (∃ next, kind.layout.read raw tagSize = .ok (values, next)) ∧
              r = Record.ofValues kind values hfits) :=
  ⟨decode_eq_failure_iff_failsAt, decode_eq_decoded_iff_read⟩

end Scope

end MessageGateway
