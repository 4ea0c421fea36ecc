import MessageGateway.Payload
import MessageGateway.Proofs.Message.Outcome

/-!
# One table and both

The result for a payload by both tables is settled by the outcomes that it has by each table alone
(`Payload.value_decode`): a record comes before a failure, a failure before an unknown payload, and
of two alike the one of the table that is tried first (`DecodeResult.settle`). So the two ways of
decoding never contradict each other (`Payload.decode_agrees_with_decodeAs`).

## Main definitions

* `MessageGateway.DecodeResult.settle`.
* `MessageGateway.Payload.firstTried`.
* `MessageGateway.Payload.shownTag`, `MessageGateway.Payload.shownBytes`.
* `MessageGateway.DecodeResult.Agrees`.

## Main results

* `MessageGateway.Payload.value_decodeAs`, `MessageGateway.Payload.value_decode`.
* `MessageGateway.Payload.decode_agrees_with_decodeAs`.
-/

namespace MessageGateway

namespace Scope

variable {P : Scope → Prop}

/-- A table and the other one are all tables. -/
theorem forall_iff (first : Scope) : (∀ scope, P scope) ↔ P first ∧ P first.other := by
  constructor
  · intro h
    exact ⟨h first, h first.other⟩
  · rintro ⟨hfirst, hother⟩ scope
    cases first <;> cases scope <;> assumption

theorem exists_iff (first : Scope) : (∃ scope, P scope) ↔ P first ∨ P first.other := by
  constructor
  · rintro ⟨scope, h⟩
    cases first <;> cases scope
    exacts [.inl h, .inr h, .inr h, .inl h]
  · rintro (h | h)
    exacts [⟨first, h⟩, ⟨first.other, h⟩]

theorem other_eq_of_ne {first scope : Scope} (h : first ≠ scope) : first.other = scope := by
  cases first <;> cases scope <;> first | rfl | exact absurd rfl h

end Scope

/-! ### Two outcomes and one result -/

namespace DecodeResult

/-- The result for two outcomes, the first by the table that is tried first and the second by the
other: a record comes before a failure, a failure before an unknown payload, and of two alike the
first. -/
def settle (first : Scope) (neither : UnknownPayload) : Outcome → Outcome → DecodeResult
  | .decoded r, _ => ⟨some first, .decoded r⟩
  | _, .decoded r => ⟨some first.other, .decoded r⟩
  | .failure f, _ => ⟨some first, .failure f⟩
  | _, .failure f => ⟨some first.other, .failure f⟩
  | .unknown _, .unknown _ => ⟨none, .unknown neither⟩

variable {first scope : Scope} {neither : UnknownPayload} {x y : Outcome}

/-- A result that names a table has the outcome by that table. -/
theorem outcome_settle (h : (settle first neither x y).scope = some scope) :
    scope = first ∧ (settle first neither x y).outcome = x ∨
      scope = first.other ∧ (settle first neither x y).outcome = y := by
  cases x <;> cases y <;> simp_all [settle, eq_comm]

/-- No table is named exactly when the payload is unknown to both. -/
theorem scope_settle_eq_none_iff :
    (settle first neither x y).scope = none ↔ x.IsUnknown ∧ y.IsUnknown := by
  cases x <;> cases y <;> simp [settle]

theorem settle_of_isUnknown (hx : x.IsUnknown) (hy : y.IsUnknown) :
    settle first neither x y = ⟨none, .unknown neither⟩ := by
  obtain ⟨u, rfl⟩ := hx
  obtain ⟨v, rfl⟩ := hy
  rfl

theorem isDecoded_settle_iff :
    (settle first neither x y).outcome.isDecoded ↔ x.isDecoded ∨ y.isDecoded := by
  cases x <;> cases y <;> simp [settle]

theorem isFailure_settle_iff :
    (settle first neither x y).outcome.IsFailure ↔
      (¬ x.isDecoded ∧ ¬ y.isDecoded) ∧ (x.IsFailure ∨ y.IsFailure) := by
  cases x <;> cases y <;> simp [settle]

/-- Of two records, and of two failures, the first is taken. -/
theorem scope_settle_of_alike
    (h : x.isDecoded ∧ y.isDecoded ∨ x.IsFailure ∧ y.IsFailure) :
    (settle first neither x y).scope = some first := by
  cases x <;> cases y <;> simp_all [settle]

/-- Otherwise the order makes no difference. -/
theorem settle_comm (h : ¬ (x.isDecoded ∧ y.isDecoded ∨ x.IsFailure ∧ y.IsFailure)) :
    settle first neither x y = settle first.other neither y x := by
  have hother : first.other.other = first := by cases first <;> rfl
  cases x <;> cases y <;> simp_all [settle]

end DecodeResult

namespace Payload

variable {mode : TagMode} {prefer : Option Scope} {payload : Option String} {scope : Scope}
  {raw : Bytes}

/-! ### One table -/

/-- What is shown as the tag of a payload; without enough bytes it is marked as invalid. -/
def shownTag (payload : Option String) : String :=
  match bytes? payload with
  | none => "invalid"
  | some raw => if raw.length < tagSize then "invalid" else tagOf raw

/-- What is shown as the bytes of a payload; a payload without bytes has none to show. -/
def shownBytes (payload : Option String) : String :=
  Hex.encode ((bytes? payload).getD [])

/-- A payload has the outcome of its bytes, if they are enough for a tag. -/
theorem value_decodeAs (mode : TagMode) (scope : Scope) (payload : Option String) :
    (decodeAs mode scope payload).value =
      match bytes? payload with
      | none => .unknown (invalid scope.label [])
      | some raw =>
        if raw.length < tagSize then .unknown (invalid scope.label raw)
        else scope.outcome mode raw := by
  unfold decodeAs
  cases bytes? payload with
  | none => rfl
  | some raw =>
    by_cases hlen : raw.length < tagSize
    · simp only [Scope.decode_eq_bufferTooSmall hlen, if_pos hlen]
      rfl
    · simp only [Scope.decode_eq_outcome (Nat.not_lt.mp hlen), if_neg hlen]
      rfl

theorem value_decodeAs_of_bytes? (h : bytes? payload = some raw) (hlen : tagSize ≤ raw.length) :
    (decodeAs mode scope payload).value = scope.outcome mode raw := by
  simp only [value_decodeAs, h, if_neg (Nat.not_lt.mpr hlen)]

/-- What is not unknown is the outcome of the bytes of a payload. -/
theorem value_decodeAs_cases (mode : TagMode) (scope : Scope) (payload : Option String) :
    (decodeAs mode scope payload).value.IsUnknown ∨
      ∃ raw, bytes? payload = some raw ∧
        (decodeAs mode scope payload).value = scope.outcome mode raw := by
  rw [value_decodeAs]
  cases bytes? payload with
  | none => exact .inl ⟨_, rfl⟩
  | some raw =>
    by_cases hlen : raw.length < tagSize
    · exact .inl ⟨_, if_pos hlen⟩
    · exact .inr ⟨raw, rfl, if_neg hlen⟩

/-- A payload that a table does not know shows what every unknown payload shows. -/
theorem value_decodeAs_of_isUnknown (h : (decodeAs mode scope payload).value.IsUnknown) :
    (decodeAs mode scope payload).value =
      .unknown ⟨shownTag payload, shownBytes payload, scope.label⟩ := by
  rw [value_decodeAs] at h ⊢
  unfold shownTag shownBytes
  cases hraw : bytes? payload with
  | none => rfl
  | some raw =>
    simp only [hraw] at h
    by_cases hlen : raw.length < tagSize
    · simp only [if_pos hlen]
      rfl
    · simp only [if_neg hlen] at h ⊢
      rw [Scope.outcome, Scope.isUnknown_outcome_iff.mp h]
      rfl

/-! ### Both tables -/

/-- The table that is tried first for a payload. -/
def firstTried (mode : TagMode) (prefer : Option Scope) (payload : Option String) : Scope :=
  firstScope mode prefer ((bytes? payload).getD [])

/-- The result by both tables is settled by the outcomes by each. -/
theorem value_decode (mode : TagMode) (prefer : Option Scope) (payload : Option String) :
    (decode mode prefer payload).value =
      .settle (firstTried mode prefer payload) ⟨shownTag payload, shownBytes payload, "unknown"⟩
        (decodeAs mode (firstTried mode prefer payload) payload).value
        (decodeAs mode (firstTried mode prefer payload).other payload).value := by
  simp only [value_decodeAs, firstTried, shownTag, shownBytes, decode, decodeWith]
  cases bytes? payload with
  | none => rfl
  | some raw =>
    by_cases hlen : raw.length < tagSize
    · simp only [if_pos hlen]
      rfl
    · simp only [if_neg hlen, Option.getD_some, decodeMessage,
        Scope.decode_eq_outcome (Nat.not_lt.mp hlen)]
      cases (firstScope mode prefer raw).outcome mode raw <;>
        cases (firstScope mode prefer raw).other.outcome mode raw <;> rfl

end Payload

/-- How a result by both tables goes with the outcomes by each table alone, where `first` is the
table that is tried first. -/
structure DecodeResult.Agrees (result : DecodeResult) (alone : Scope → Outcome) (first : Scope) :
    Prop where
  /-- A result that names a table has the outcome by that table. -/
  outcome_eq : ∀ scope, result.scope = some scope → result.outcome = alone scope
  /-- No table is named exactly when the payload is unknown to both. -/
  scope_eq_none_iff : result.scope = none ↔ ∀ scope, (alone scope).IsUnknown
  /-- Then the tag and the bytes that are shown are the same for both tables and the result. -/
  unknown_eq : result.scope = none → ∃ discriminator rawHex,
    result.outcome = .unknown ⟨discriminator, rawHex, "unknown"⟩ ∧
      ∀ scope, alone scope = .unknown ⟨discriminator, rawHex, scope.label⟩
  /-- A record is found exactly when one of the tables gives one. -/
  isDecoded_iff : result.outcome.isDecoded ↔ ∃ scope, (alone scope).isDecoded
  /-- A failure is found exactly when no table gives a record and one of them gives a failure. -/
  isFailure_iff : result.outcome.IsFailure ↔
    (∀ scope, ¬ (alone scope).isDecoded) ∧ ∃ scope, (alone scope).IsFailure
  /-- Of two failures the first is taken. -/
  scope_eq_first : (∀ scope, (alone scope).IsFailure) → result.scope = some first

/-- **Both tables agree with each alone.** The result for a payload by both tables is that of one
of the tables, a record if there is one, or else a failure if there is one, or else that the
payload is unknown to both. -/
theorem Payload.decode_agrees_with_decodeAs (mode : TagMode) (prefer : Option Scope)
    (payload : Option String) :
    (decode mode prefer payload).value.Agrees (fun scope => (decodeAs mode scope payload).value)
      (firstTried mode prefer payload) := by
  have hdecode := value_decode mode prefer payload
  generalize firstTried mode prefer payload = first at hdecode ⊢
  refine ⟨fun scope hscope => ?_, ?_, fun hscope => ?_, ?_, ?_, fun hfailures => ?_⟩
  · rw [hdecode] at hscope ⊢
    rcases DecodeResult.outcome_settle hscope with ⟨rfl, houtcome⟩ | ⟨rfl, houtcome⟩
    · exact houtcome
    · exact houtcome
  · rw [hdecode, DecodeResult.scope_settle_eq_none_iff, Scope.forall_iff first]
  · rw [hdecode, DecodeResult.scope_settle_eq_none_iff] at hscope
    refine ⟨shownTag payload, shownBytes payload, ?_, ?_⟩
    · rw [hdecode, DecodeResult.settle_of_isUnknown hscope.1 hscope.2]
    · rw [Scope.forall_iff first]
      exact ⟨value_decodeAs_of_isUnknown hscope.1, value_decodeAs_of_isUnknown hscope.2⟩
  · rw [hdecode, DecodeResult.isDecoded_settle_iff, Scope.exists_iff first]
  · rw [hdecode, DecodeResult.isFailure_settle_iff, Scope.forall_iff first,
      Scope.exists_iff first]
  · rw [hdecode]
    exact DecodeResult.scope_settle_of_alike (.inr ((Scope.forall_iff first).mp hfailures))

end MessageGateway
