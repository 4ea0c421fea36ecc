import MessageGateway.Proofs.Payload.Attempts

/-!
# When the decoders of one table break down

Suppose that every attempt by one of the two tables breaks down (`Payload.faulty`). Decoding by both
tables has a result all the same, which depends only on whether that table is tried. If not, nothing
changes (`Payload.decodeWith_faulty_of_notMem`). If it is, the payload is unknown, whatever came out
before, and the log up to then ends with a warning (`Payload.decodeWith_faulty_of_mem`).

It is not tried for a payload without a tag, nor for one that is *spared*: that the other table,
being tried first, decodes (`Payload.mem_attempted_iff`).

## Main definitions

* `MessageGateway.Payload.IsSpared`.
* `MessageGateway.Payload.FaultContained`.

## Main results

* `MessageGateway.Payload.decodeWith_faulty_of_notMem`,
  `MessageGateway.Payload.decodeWith_faulty_of_mem`.
* `MessageGateway.Payload.faultContained`.
-/

namespace MessageGateway

namespace Payload

variable {mode : TagMode} {prefer : Option Scope} {payload : Option String} {scope broken : Scope}
  {reason : String}

/-! ### Payloads that are spared -/

/-- The other table is tried first and decodes the payload. -/
def IsSpared (mode : TagMode) (broken : Scope) (prefer : Option Scope)
    (payload : Option String) : Prop :=
  firstTried mode prefer payload ≠ broken ∧
    (decodeAs mode (firstTried mode prefer payload) payload).value.isDecoded = true

instance : Decidable (IsSpared mode broken prefer payload) :=
  inferInstanceAs (Decidable (_ ∧ _))

/-- A table is tried for every payload that has a tag and is not spared it. -/
theorem mem_attempted_iff :
    scope ∈ attempted mode prefer payload ↔
      isInvalid payload = false ∧ ¬ IsSpared mode scope prefer payload := by
  unfold IsSpared
  cases hvalid : isInvalid payload with
  | true => simp [attempted_of_isInvalid hvalid]
  | false =>
    cases hx : (decodeAs mode (firstTried mode prefer payload) payload).value.isDecoded with
    | true => simp [attempted_of_isDecoded hvalid hx, eq_comm]
    | false =>
      rw [attempted_of_isDecoded_eq_false hvalid hx]
      by_cases hfirst : firstTried mode prefer payload = scope
      · simp [hfirst]
      · simp [Scope.other_eq_of_ne hfirst]

/-! ### Whether the table is tried -/

/-- Nothing changes if the table is not tried. -/
theorem decodeWith_faulty_of_notMem (h : broken ∉ attempted mode prefer payload) :
    decodeWith (faulty mode broken reason) mode prefer payload = decode mode prefer payload :=
  decodeWith_congr fun _ hscope _ _ => if_neg (ne_of_mem_of_not_mem hscope h)

/-- Otherwise the tables before it are reported, and then a warning. -/
theorem decodeWith_faulty_of_mem (h : broken ∈ attempted mode prefer payload) (reason : String) :
    ∃ raw, bytes? payload = some raw ∧
      decodeWith (faulty mode broken reason) mode prefer payload =
        interrupted raw (.unexpected reason)
          (((attempted mode prefer payload).takeWhile (· ≠ broken)).flatMap fun scope =>
            (decodeAs mode scope payload).value.report) := by
  obtain ⟨hvalid, hspared⟩ := mem_attempted_iff.mp h
  obtain ⟨raw, hraw, hlen⟩ := isInvalid_eq_false_iff.mp hvalid
  have hfault : ∀ scope, scope = broken →
      faulty mode broken reason scope raw = ⟨.error (.unexpected reason), []⟩ :=
    fun _ hscope => if_pos hscope
  refine ⟨raw, hraw, ?_⟩
  rw [decodeWith_of_bytes? hraw hlen]
  by_cases hfirst : firstTried mode prefer payload = broken
  · -- The first attempt breaks down, so nothing has been reported yet.
    obtain ⟨scopes, hscopes⟩ := exists_attempted_eq_cons mode prefer hvalid
    rw [decodeMessage_of_error (hfault _ hfirst), hscopes, hfirst]
    simp
  · -- The first attempt is in vain, for the payload is not spared, and the second breaks down.
    have hother := Scope.other_eq_of_ne hfirst
    have hx : (decodeAs mode (firstTried mode prefer payload) payload).value.isDecoded = false :=
      Bool.eq_false_iff.mpr fun hx => hspared ⟨hfirst, hx⟩
    have hone : faulty mode broken reason (firstTried mode prefer payload) raw = _ :=
      (if_neg hfirst).trans (decode_eq_value_decodeAs hraw hlen mode _)
    rw [decodeMessage_of_error_other hone hx (hfault _ hother),
      attempted_of_isDecoded_eq_false hvalid hx, hother]
    simp [hfirst]

/-! ### Every fault is contained -/

/-- What comes of a payload when every attempt by one table breaks down for a reason. -/
structure FaultContained (mode : TagMode) (broken : Scope) (reason : String)
    (prefer : Option Scope) (payload : Option String) : Prop where
  /-- A payload without a tag has its result, and nothing is logged. -/
  of_isInvalid : isInvalid payload = true →
    decodeWith (faulty mode broken reason) mode prefer payload = decode mode prefer payload ∧
      (decode mode prefer payload).log = []
  /-- A payload that is spared has its result, and no warning is logged. -/
  of_isSpared : IsSpared mode broken prefer payload →
    decodeWith (faulty mode broken reason) mode prefer payload = decode mode prefer payload ∧
      ∀ entry ∈ (decode mode prefer payload).log, entry.severity = .debug
  /-- Any other payload is unknown, and a warning with the reason is logged once, in the end. -/
  of_not_isSpared : isInvalid payload = false → ¬ IsSpared mode broken prefer payload →
    ∃ raw before, bytes? payload = some raw ∧
      decodeWith (faulty mode broken reason) mode prefer payload =
        ⟨⟨none, .unknown ⟨tagOf raw, Hex.encode raw, "unknown"⟩⟩,
          before ++ [⟨.warning, "[DECODER] Unexpected decode error: " ++ reason⟩]⟩ ∧
      ∀ entry ∈ before, entry.severity = .debug

/-- **Faults are contained.** Whatever the payload, if every attempt by one table breaks down then
decoding by both has the result that it would have anyway, or is unknown with a warning, according
to whether that table is tried. -/
theorem faultContained (mode : TagMode) (broken : Scope) (reason : String)
    (prefer : Option Scope) (payload : Option String) :
    FaultContained mode broken reason prefer payload where
  of_isInvalid hvalid := by
    refine ⟨decodeWith_faulty_of_notMem fun h => ?_, ?_⟩
    · rw [(mem_attempted_iff.mp h).1] at hvalid
      cases hvalid
    · rw [log_decode, attempted_of_isInvalid hvalid, List.flatMap_nil]
  of_isSpared hspared :=
    ⟨decodeWith_faulty_of_notMem fun h => (mem_attempted_iff.mp h).2 hspared,
      fun _ hentry => severity_of_mem_reports (log_decode mode prefer payload ▸ hentry)⟩
  of_not_isSpared hvalid hspared := by
    obtain ⟨raw, hraw, h⟩ :=
      decodeWith_faulty_of_mem (mem_attempted_iff.mpr ⟨hvalid, hspared⟩) reason
    exact ⟨raw, _, hraw, h, fun _ => severity_of_mem_reports⟩

/-- The decoders of events break down: for a payload of three bytes, for an instruction, and for an
instruction without its fields, which has failed before. -/
theorem faultContained_ofEvents :
    (isInvalid (some "AAAA") = true ∧
      decodeWith (faulty .static .event "boom") .static none (some "AAAA") =
        decode .static none (some "AAAA")) ∧
      (IsSpared .static .event none (some "Tn18a1s7PBoB") ∧
        decodeWith (faulty .static .event "boom") .static none (some "Tn18a1s7PBoB") =
          decode .static none (some "Tn18a1s7PBoB")) ∧
      ∃ before, decodeWith (faulty .static .event "boom") .static none (some "2RiEmgRsd3o=") =
        ⟨⟨none, .unknown ⟨"d918849a046c777a", "d918849a046c777a", "unknown"⟩⟩,
          before ++ [⟨.warning, "[DECODER] Unexpected decode error: boom"⟩]⟩ := by
  have hinvalid : isInvalid (some "AAAA") = true := by decide +kernel
  have hspared : IsSpared .static .event none (some "Tn18a1s7PBoB") := by decide +kernel
  have hbytes : bytes? (some "2RiEmgRsd3o=") =
      some [0xd9, 0x18, 0x84, 0x9a, 0x04, 0x6c, 0x77, 0x7a] := by decide +kernel
  have htag : tagOf [0xd9, 0x18, 0x84, 0x9a, 0x04, 0x6c, 0x77, 0x7a] = "d918849a046c777a" := by
    decide +kernel
  refine ⟨⟨hinvalid, ((faultContained _ _ _ _ _).of_isInvalid hinvalid).1⟩,
    ⟨hspared, ((faultContained _ _ _ _ _).of_isSpared hspared).1⟩, ?_⟩
  obtain ⟨raw, before, hraw, h, -⟩ :=
    (faultContained .static .event "boom" none (some "2RiEmgRsd3o=")).of_not_isSpared
      (by decide +kernel) (by decide +kernel)
  cases hraw.symm.trans hbytes
  refine ⟨before, h.trans ?_⟩
  rw [htag]
  rfl

end Payload

end MessageGateway
