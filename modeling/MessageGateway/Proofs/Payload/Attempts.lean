import MessageGateway.Proofs.Payload.BothTables

/-!
# Which tables are tried

Decoding by both tables tries one table after the other (`Payload.decodeMessage`): the second only
if the first gives no record, and neither for a payload without a tag. The tables that are tried
(`Payload.attempted`) are all that the result and the log depend on (`Payload.decodeWith_congr`),
and what is logged is what there is to report about the outcome by each of them, in order
(`Payload.log_decode`).

## Main definitions

* `MessageGateway.Payload.isInvalid`.
* `MessageGateway.Payload.attempted`.

## Main results

* `MessageGateway.Payload.decodeWith_congr`.
* `MessageGateway.Payload.log_decode`.
-/

namespace MessageGateway

namespace Payload

variable {attempt attempt' : Attempt} {mode : TagMode} {prefer : Option Scope}
  {payload : Option String} {scope first : Scope} {raw : Bytes} {x y : Outcome}
  {reason : Interruption} {log log' : List LogEntry}

/-! ### One attempt after the other -/

/-- A record by the first table is the result. -/
theorem decodeMessage_of_isDecoded (h : attempt first raw = ⟨.ok x, log⟩) (hx : x.isDecoded) :
    decodeMessage attempt first raw = ⟨⟨some first, x⟩, log⟩ := by
  simp only [decodeMessage, h, hx, if_true]

/-- Without one the other table is tried as well. -/
theorem log_decodeMessage (h : attempt first raw = ⟨.ok x, log⟩) (hx : x.isDecoded = false)
    (hother : attempt first.other raw = ⟨.ok y, log'⟩) :
    (decodeMessage attempt first raw).log = log ++ log' := by
  simp only [decodeMessage, h, hx, hother, Bool.false_eq_true, if_false]
  cases y.isDecoded <;> rfl

theorem decodeMessage_of_error (h : attempt first raw = ⟨.error reason, log⟩) :
    decodeMessage attempt first raw = interrupted raw reason log := by
  simp only [decodeMessage, h]

theorem decodeMessage_of_error_other (h : attempt first raw = ⟨.ok x, log⟩)
    (hx : x.isDecoded = false) (hother : attempt first.other raw = ⟨.error reason, log'⟩) :
    decodeMessage attempt first raw = interrupted raw reason (log ++ log') := by
  simp only [decodeMessage, h, hx, hother, Bool.false_eq_true, if_false]

/-- Attempts that agree on the tables that are tried have the same result. -/
theorem decodeMessage_congr (h : attempt first raw = attempt' first raw)
    (hother : (∀ x, (attempt first raw).value = .ok x → x.isDecoded = false) →
      attempt first.other raw = attempt' first.other raw) :
    decodeMessage attempt first raw = decodeMessage attempt' first raw := by
  rw [decodeMessage, decodeMessage, ← h]
  cases hvalue : (attempt first raw).value with
  | error reason => rfl
  | ok x =>
    cases hx : x.isDecoded with
    | true => simp only [hx, if_true]
    | false =>
      rw [hother fun x' hx' => Except.ok.inj (hvalue.symm.trans hx') ▸ hx]

/-! ### Payloads with a tag -/

/-- Whether a payload has no bytes, or not enough for a tag. -/
def isInvalid (payload : Option String) : Bool :=
  (bytes? payload).all fun raw => raw.length < tagSize

theorem isInvalid_eq_false_iff :
    isInvalid payload = false ↔ ∃ raw, bytes? payload = some raw ∧ tagSize ≤ raw.length := by
  unfold isInvalid
  cases bytes? payload with
  | none => simp
  | some raw => simp

/-- No table is tried for a payload without a tag, and nothing is logged. -/
theorem decodeWith_of_isInvalid (h : isInvalid payload) :
    decodeWith attempt mode prefer payload =
      .silent ⟨none, .unknown ⟨"invalid", shownBytes payload, "unknown"⟩⟩ := by
  unfold isInvalid at h
  unfold decodeWith shownBytes
  cases hraw : bytes? payload with
  | none => rfl
  | some raw =>
    simp only [hraw, Option.all_some, decide_eq_true_eq] at h
    exact if_pos h

theorem decodeWith_of_bytes? (h : bytes? payload = some raw) (hlen : tagSize ≤ raw.length) :
    decodeWith attempt mode prefer payload =
      decodeMessage attempt (firstTried mode prefer payload) raw := by
  simp only [decodeWith, firstTried, h, if_neg (Nat.not_lt.mpr hlen), Option.getD_some]

/-- The attempt by a table has the outcome by that table alone. -/
theorem decode_eq_value_decodeAs (h : bytes? payload = some raw) (hlen : tagSize ≤ raw.length)
    (mode : TagMode) (scope : Scope) :
    scope.decode mode raw = ⟨.ok (decodeAs mode scope payload).value,
      (decodeAs mode scope payload).value.report⟩ := by
  rw [Scope.decode_eq_outcome hlen, value_decodeAs_of_bytes? h hlen]

/-! ### The tables that are tried -/

/-- The tables that are tried for a payload, in order. -/
def attempted (mode : TagMode) (prefer : Option Scope) (payload : Option String) : List Scope :=
  let first := firstTried mode prefer payload
  if isInvalid payload then []
  else if (decodeAs mode first payload).value.isDecoded then [first]
  else [first, first.other]

theorem attempted_of_isInvalid (h : isInvalid payload) : attempted mode prefer payload = [] :=
  if_pos h

theorem attempted_of_isDecoded (hvalid : isInvalid payload = false)
    (h : (decodeAs mode (firstTried mode prefer payload) payload).value.isDecoded = true) :
    attempted mode prefer payload = [firstTried mode prefer payload] := by
  simp only [attempted, hvalid, h, Bool.false_eq_true, if_false, if_true]

theorem attempted_of_isDecoded_eq_false (hvalid : isInvalid payload = false)
    (h : (decodeAs mode (firstTried mode prefer payload) payload).value.isDecoded = false) :
    attempted mode prefer payload =
      [firstTried mode prefer payload, (firstTried mode prefer payload).other] := by
  simp only [attempted, hvalid, h, Bool.false_eq_true, if_false]

/-- For a payload with a tag the first table is tried in any case. -/
theorem exists_attempted_eq_cons (mode : TagMode) (prefer : Option Scope)
    (hvalid : isInvalid payload = false) :
    ∃ scopes, attempted mode prefer payload = firstTried mode prefer payload :: scopes := by
  cases hx : (decodeAs mode (firstTried mode prefer payload) payload).value.isDecoded with
  | true => exact ⟨_, attempted_of_isDecoded hvalid hx⟩
  | false => exact ⟨_, attempted_of_isDecoded_eq_false hvalid hx⟩

/-- Attempts that agree on the tables that are tried have the same result and the same log. -/
theorem decodeWith_congr (h : ∀ scope ∈ attempted mode prefer payload, ∀ raw,
      bytes? payload = some raw → attempt scope raw = scope.decode mode raw) :
    decodeWith attempt mode prefer payload = decode mode prefer payload := by
  cases hvalid : isInvalid payload with
  | true => rw [decode, decodeWith_of_isInvalid hvalid, decodeWith_of_isInvalid hvalid]
  | false =>
    obtain ⟨raw, hraw, hlen⟩ := isInvalid_eq_false_iff.mp hvalid
    rw [decode, decodeWith_of_bytes? hraw hlen, decodeWith_of_bytes? hraw hlen]
    obtain ⟨scopes, hscopes⟩ := exists_attempted_eq_cons mode prefer hvalid
    have hfirst := h _ (hscopes ▸ List.mem_cons_self ..) raw hraw
    refine decodeMessage_congr hfirst fun hnone => ?_
    rw [hfirst, decode_eq_value_decodeAs hraw hlen] at hnone
    rw [attempted_of_isDecoded_eq_false hvalid (hnone _ rfl)] at h
    exact h _ (by simp) raw hraw

/-- What there is to report about outcomes is not serious. -/
theorem severity_of_mem_reports {scopes : List Scope} {entry : LogEntry}
    (h : entry ∈ scopes.flatMap fun scope => (decodeAs mode scope payload).value.report) :
    entry.severity = .debug := by
  obtain ⟨_, -, hentry⟩ := List.mem_flatMap.mp h
  exact Outcome.severity_of_mem_report hentry

/-- **What is logged about a payload**: what there is to report about its outcomes by the tables
that are tried. -/
theorem log_decode (mode : TagMode) (prefer : Option Scope) (payload : Option String) :
    (decode mode prefer payload).log = (attempted mode prefer payload).flatMap fun scope =>
      (decodeAs mode scope payload).value.report := by
  cases hvalid : isInvalid payload with
  | true =>
    rw [decode, decodeWith_of_isInvalid hvalid, attempted_of_isInvalid hvalid]
    rfl
  | false =>
    obtain ⟨raw, hraw, hlen⟩ := isInvalid_eq_false_iff.mp hvalid
    have hattempt := decode_eq_value_decodeAs hraw hlen mode
    rw [decode, decodeWith_of_bytes? hraw hlen]
    cases hx : (decodeAs mode (firstTried mode prefer payload) payload).value.isDecoded with
    | true =>
      rw [decodeMessage_of_isDecoded (hattempt _) hx, attempted_of_isDecoded hvalid hx,
        List.flatMap_singleton]
    | false =>
      rw [log_decodeMessage (hattempt _) hx (hattempt _),
        attempted_of_isDecoded_eq_false hvalid hx, List.flatMap_cons, List.flatMap_singleton]

end Payload

end MessageGateway
