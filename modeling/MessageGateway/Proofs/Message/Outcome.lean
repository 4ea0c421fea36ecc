import MessageGateway.Proofs.Message.Decoding

/-!
# The outcome of a message

A table has an outcome for every message that is long enough for a tag (`Scope.outcome`): a record
or a failure of the kind with its tag, and an unknown payload where no kind of the table has that
tag. The log follows from the outcome (`Outcome.report`), and only a message without a tag leaves
no outcome.

## Main definitions

* `MessageGateway.Outcome.IsUnknown`, `MessageGateway.Outcome.IsFailure`.
* `MessageGateway.Outcome.report`, `MessageGateway.Scope.outcome`.

## Main results

* `MessageGateway.Scope.decode_eq_outcome`, `MessageGateway.Scope.decode_eq_bufferTooSmall`.
* `MessageGateway.Scope.isDecoded_outcome_iff`, `MessageGateway.Scope.isFailure_outcome_iff`,
  `MessageGateway.Scope.isUnknown_outcome_iff`.
-/

namespace MessageGateway

namespace Outcome

/-- The tag of the payload is not in the table. -/
def IsUnknown (x : Outcome) : Prop :=
  ∃ u, x = .unknown u

/-- The payload is of a kind of the table and cannot be read. -/
def IsFailure (x : Outcome) : Prop :=
  ∃ f, x = .failure f

/-- What is logged about an outcome: nothing about a record, and one entry about any other. -/
def report : Outcome → List LogEntry
  | .decoded _ => []
  | .unknown u => [⟨.debug, s!"[DECODER] Unknown {u.scope} discriminator {u.discriminator}"⟩]
  | .failure f => [⟨.debug, s!"[DECODER] {f.scope} {f.kind} failed: {f.error.message}"⟩]

/-- There is one entry about each outcome that is no record, and none is serious. -/
theorem map_severity_report (x : Outcome) :
    x.report.map (·.severity) = if x.isDecoded then [] else [.debug] := by
  cases x <;> rfl

theorem severity_of_mem_report {x : Outcome} {entry : LogEntry} (h : entry ∈ x.report) :
    entry.severity = .debug := by
  have hseverity : entry.severity ∈ x.report.map (·.severity) := List.mem_map_of_mem h
  rw [map_severity_report] at hseverity
  split at hseverity
  · cases hseverity
  · exact List.mem_singleton.mp hseverity

@[simp] theorem isDecoded_decoded (r : Record) : (Outcome.decoded r).isDecoded = true := rfl

@[simp] theorem isDecoded_unknown (u : UnknownPayload) : (Outcome.unknown u).isDecoded = false :=
  rfl

@[simp] theorem isDecoded_failure (f : DecodeFailure) : (Outcome.failure f).isDecoded = false :=
  rfl

@[simp] theorem isUnknown_unknown (u : UnknownPayload) : (Outcome.unknown u).IsUnknown := ⟨u, rfl⟩

@[simp] theorem not_isUnknown_decoded (r : Record) : ¬ (Outcome.decoded r).IsUnknown := nofun

@[simp] theorem not_isUnknown_failure (f : DecodeFailure) : ¬ (Outcome.failure f).IsUnknown :=
  nofun

@[simp] theorem isFailure_failure (f : DecodeFailure) : (Outcome.failure f).IsFailure := ⟨f, rfl⟩

@[simp] theorem not_isFailure_decoded (r : Record) : ¬ (Outcome.decoded r).IsFailure := nofun

@[simp] theorem not_isFailure_unknown (u : UnknownPayload) : ¬ (Outcome.unknown u).IsFailure :=
  nofun

end Outcome

namespace Scope

variable {mode : TagMode} {scope : Scope} {kind : Kind} {raw : Bytes}

/-- The outcome by a table of a message that is long enough for a tag. -/
def outcome (mode : TagMode) (scope : Scope) (raw : Bytes) : Outcome :=
  match scope.kindTagged? mode (tagOf raw) with
  | none => .unknown ⟨tagOf raw, Hex.encode raw, scope.label⟩
  | some kind =>
    match kind.decode raw with
    | .ok record => .decoded record
    | .error e => .failure ⟨scope.label, kind.name, .outOfBounds e, tagOf raw, Hex.encode raw⟩

/-- The kind that a message is looked up to be is the one whose tag it starts with. -/
theorem kindTagged?_tagOf_eq_some_iff :
    scope.kindTagged? mode (tagOf raw) = some kind ↔
      kind ∈ scope.kinds ∧ kind.tag mode <+: raw := by
  rw [tagOf, kindTagged?_eq_some_iff, List.prefix_iff_eq_take, Kind.length_tag]

/-- A message that is too short for a tag has no outcome. -/
theorem decode_eq_bufferTooSmall (h : raw.length < tagSize) :
    scope.decode mode raw = .silent (.error (.bufferTooSmall raw.length)) := by
  rw [decode, Dispatcher.run, if_pos h]

/-- Any other message has its outcome, and the log follows from that. -/
theorem decode_eq_outcome (h : tagSize ≤ raw.length) :
    scope.decode mode raw = ⟨.ok (scope.outcome mode raw), (scope.outcome mode raw).report⟩ := by
  cases hkind : scope.kindTagged? mode (tagOf raw) with
  | none =>
    simp only [decode, Dispatcher.run, if_neg (Nat.not_lt.mpr h), dispatcher, hkind,
      Option.map_none, outcome, Outcome.report]
  | some kind =>
    obtain ⟨hmem, htag⟩ := kindTagged?_tagOf_eq_some_iff.mp hkind
    simp only [decode_of_tag hmem htag, outcome, hkind]
    cases kind.decode raw <;> rfl

/-! ### Which outcome -/

/-- The outcome of a message, and what it comes from. -/
theorem outcome_cases (mode : TagMode) (scope : Scope) (raw : Bytes) :
    scope.outcome mode raw = .unknown ⟨tagOf raw, Hex.encode raw, scope.label⟩ ∨
      (∃ (kind : Kind) (r : Record), kind.decode raw = .ok r ∧
        scope.outcome mode raw = .decoded r) ∨
      ∃ (kind : Kind) (e : OutOfBounds), kind.decode raw = .error e ∧ scope.outcome mode raw =
        .failure ⟨scope.label, kind.name, .outOfBounds e, tagOf raw, Hex.encode raw⟩ := by
  unfold outcome
  cases scope.kindTagged? mode (tagOf raw) with
  | none => exact .inl rfl
  | some kind =>
    cases hdecode : kind.decode raw with
    | ok r => exact .inr (.inl ⟨kind, r, hdecode, by simp only [hdecode]⟩)
    | error e => exact .inr (.inr ⟨kind, e, hdecode, by simp only [hdecode]⟩)

theorem isDecoded_outcome_iff :
    (scope.outcome mode raw).isDecoded ↔
      ∃ kind, scope.kindTagged? mode (tagOf raw) = some kind ∧ ∃ r, kind.decode raw = .ok r := by
  unfold outcome
  cases scope.kindTagged? mode (tagOf raw) with
  | none => simp
  | some kind => cases hdecode : kind.decode raw <;> simp [hdecode]

theorem isFailure_outcome_iff :
    (scope.outcome mode raw).IsFailure ↔
      ∃ kind, scope.kindTagged? mode (tagOf raw) = some kind ∧ ∃ e, kind.decode raw = .error e := by
  unfold outcome
  cases scope.kindTagged? mode (tagOf raw) with
  | none => simp
  | some kind => cases hdecode : kind.decode raw <;> simp [hdecode]

theorem isUnknown_outcome_iff :
    (scope.outcome mode raw).IsUnknown ↔ scope.kindTagged? mode (tagOf raw) = none := by
  unfold outcome
  cases scope.kindTagged? mode (tagOf raw) with
  | none => simp
  | some kind => cases hdecode : kind.decode raw <;> simp [hdecode]

end Scope

end MessageGateway
