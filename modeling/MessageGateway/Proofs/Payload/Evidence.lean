import MessageGateway.Proofs.Payload.Attempts

/-!
# What is left of a payload that is not read

Whatever a payload is, decoding gives an outcome. An outcome that is no record shows the *evidence*
(`Payload.evidence`): all bytes of the payload in hexadecimal, and as its tag the first sixteen of
these digits, or that it is invalid if there are not so many.

The gateway's own decoders never break down. So decoding by one table has to catch nothing but a
message that is too short for a tag (`Payload.decodeAsWith_decode`), and decoding by both never
comes to warn of anything: each table that is tried in vain leaves one entry in the log, which is
not serious.

## Main definitions

* `MessageGateway.Evidence`, `MessageGateway.Payload.evidence`, `MessageGateway.Outcome.Keeps`.
* `MessageGateway.Payload.decodeAsWith`.
* `MessageGateway.Payload.AlwaysAnswered`.

## Main results

* `MessageGateway.Payload.keeps_decodeAs`, `MessageGateway.Payload.keeps_decode`.
* `MessageGateway.Payload.alwaysAnswered`.
-/

namespace MessageGateway

/-! ### Evidence -/

/-- What is shown of a payload that is not read. -/
structure Evidence where
  discriminator : String
  rawHex : String
  deriving DecidableEq

namespace Outcome

/-- What an outcome that is no record shows of its payload. -/
def evidence? : Outcome → Option Evidence
  | .decoded _ => none
  | .unknown u => some ⟨u.discriminator, u.rawHex⟩
  | .failure f => some ⟨f.discriminator, f.rawHex⟩

/-- An outcome is a record or shows the given evidence. -/
def Keeps (e : Evidence) (x : Outcome) : Prop :=
  x.isDecoded = false → x.evidence? = some e

variable {e : Evidence} {first : Scope} {neither : UnknownPayload} {x y : Outcome}

/-- A result keeps the evidence that its outcomes keep. -/
theorem Keeps.settle (hx : x.Keeps e) (hy : y.Keeps e)
    (hneither : (Outcome.unknown neither).Keeps e) :
    (DecodeResult.settle first neither x y).outcome.Keeps e := by
  cases x with
  | decoded r => exact nofun
  | failure f =>
    cases y with
    | decoded r => exact nofun
    | failure g => exact hx
    | unknown v => exact hx
  | unknown u =>
    cases y with
    | decoded r => exact nofun
    | failure g => exact hy
    | unknown v => exact hneither

end Outcome

/-- The tag of a message is shown by the first sixteen of its digits. -/
theorem tagOf_eq_take (raw : Bytes) :
    tagOf raw = String.ofList ((Hex.encode raw).toList.take 16) := by
  rw [Hex.encode, String.toList_ofList, Hex.take_digits raw 8]
  rfl

namespace Scope

variable {mode : TagMode} {scope : Scope} {raw : Bytes}

theorem keeps_outcome : (scope.outcome mode raw).Keeps ⟨tagOf raw, Hex.encode raw⟩ := by
  rcases scope.outcome_cases mode raw with h | ⟨_, _, -, h⟩ | ⟨_, _, -, h⟩
  · rw [h]
    exact fun _ => rfl
  · rw [h]
    exact nofun
  · rw [h]
    exact fun _ => rfl

/-- A record is of values that fit their fields. -/
theorem fits_of_decoded {r : Record} (h : scope.outcome mode raw = .decoded r) :
    ∃ kind values, ∃ hfits : kind.layout.Fits values, r = Record.ofValues kind values hfits := by
  rcases scope.outcome_cases mode raw with h' | ⟨kind, r', hdecode, h'⟩ | ⟨_, _, -, h'⟩
  · cases h.symm.trans h'
  · cases h.symm.trans h'
    obtain ⟨_, values, hbody, -, hr⟩ := Kind.decode_eq_ok_iff.mp hdecode
    exact ⟨kind, values, kind.layout.fits_of_spells hbody, hr⟩
  · cases h.symm.trans h'

/-- A failure is due to a field that does not fit. -/
theorem outOfBounds_of_failure {f : DecodeFailure} (h : scope.outcome mode raw = .failure f) :
    ∃ e, f.error = .outOfBounds e := by
  rcases scope.outcome_cases mode raw with h' | ⟨_, _, -, h'⟩ | ⟨_, e, -, h'⟩
  · cases h.symm.trans h'
  · cases h.symm.trans h'
  · cases h.symm.trans h'
    exact ⟨e, rfl⟩

end Scope

namespace Payload

variable {mode : TagMode} {prefer : Option Scope} {payload : Option String} {scope : Scope}

/-- The evidence of a payload. Without bytes there is nothing to show, and with too few for a tag
there is no tag to show. -/
def evidence (payload : Option String) : Evidence :=
  match bytes? payload with
  | none => ⟨"invalid", ""⟩
  | some raw =>
    let rawHex := Hex.encode raw
    if raw.length < 8 then ⟨"invalid", rawHex⟩
    else ⟨String.ofList (rawHex.toList.take 16), rawHex⟩

theorem evidence_eq (payload : Option String) :
    evidence payload = ⟨shownTag payload, shownBytes payload⟩ := by
  unfold evidence shownTag shownBytes
  cases bytes? payload with
  | none => rfl
  | some raw =>
    simp only [tagOf_eq_take, Option.getD_some]
    exact (apply_ite (fun tag => Evidence.mk tag (Hex.encode raw)) ..).symm

/-- An outcome by one table keeps the evidence. -/
theorem keeps_decodeAs (mode : TagMode) (scope : Scope) (payload : Option String) :
    (decodeAs mode scope payload).value.Keeps (evidence payload) := by
  rw [value_decodeAs, evidence_eq]
  unfold shownTag shownBytes
  cases bytes? payload with
  | none => exact fun _ => rfl
  | some raw =>
    by_cases hlen : raw.length < tagSize
    · simp only [if_pos hlen]
      exact fun _ => rfl
    · simp only [if_neg hlen]
      exact Scope.keeps_outcome

/-- The result by both tables keeps the evidence. -/
theorem keeps_decode (mode : TagMode) (prefer : Option Scope) (payload : Option String) :
    (decode mode prefer payload).value.outcome.Keeps (evidence payload) := by
  rw [value_decode]
  refine (keeps_decodeAs mode _ payload).settle (keeps_decodeAs mode _ payload) fun _ => ?_
  rw [evidence_eq]
  rfl

/-- The bytes of a payload are known from its evidence. -/
theorem decode?_rawHex_evidence (payload : Option String) :
    Hex.decode? (evidence payload).rawHex = some ((bytes? payload).getD []) := by
  rw [evidence_eq]
  exact Hex.decode?_encode _

/-! ### No decoder breaks down -/

/-- Decoding by one table, of which only a message that is too short for a tag is caught. -/
def decodeAsWith (attempt : Attempt) (scope : Scope) (payload : Option String) :
    Logged (Except Interruption Outcome) :=
  match bytes? payload with
  | none => .silent (.ok (.unknown (invalid scope.label [])))
  | some raw =>
    (attempt scope raw).map fun
      | .error (.bufferTooSmall _) => .ok (.unknown (invalid scope.label raw))
      | result => result

/-- Nothing else has to be caught of the gateway's own decoders. -/
theorem decodeAsWith_decode (mode : TagMode) (scope : Scope) (payload : Option String) :
    decodeAsWith (fun scope raw => scope.decode mode raw) scope payload =
      (decodeAs mode scope payload).map .ok := by
  unfold decodeAsWith decodeAs
  cases bytes? payload with
  | none => rfl
  | some raw =>
    by_cases hlen : raw.length < tagSize
    · simp only [Scope.decode_eq_bufferTooSmall hlen]
      rfl
    · simp only [Scope.decode_eq_outcome (Nat.not_lt.mp hlen)]
      rfl

/-- There is one entry for each table that is tried in vain, and none is serious. -/
theorem map_severity_log_decode (mode : TagMode) (prefer : Option Scope)
    (payload : Option String) :
    (decode mode prefer payload).log.map (·.severity) =
      ((attempted mode prefer payload).filter fun scope =>
        !(decodeAs mode scope payload).value.isDecoded).map fun _ => .debug := by
  rw [log_decode, List.map_flatMap]
  induction attempted mode prefer payload with
  | nil => rfl
  | cons scope scopes ih =>
    rw [List.flatMap_cons, ih, Outcome.map_severity_report, List.filter_cons]
    cases (decodeAs mode scope payload).value.isDecoded <;> rfl

/-! ### Every payload is answered -/

/-- How a payload is answered, by one table and by both. -/
structure AlwaysAnswered (mode : TagMode) (prefer : Option Scope) (payload : Option String) :
    Prop where
  /-- By one table there is an outcome; nothing has to be caught but a message that is too short
  for a tag. -/
  decodeAsWith_eq : ∀ scope, decodeAsWith (fun scope raw => scope.decode mode raw) scope payload =
    (decodeAs mode scope payload).map .ok
  /-- A record is of values that fit their fields, so that whatever is shown as a key is one. -/
  fits_of_decoded : ∀ scope r, (decodeAs mode scope payload).value = .decoded r →
    ∃ kind values, ∃ hfits : kind.layout.Fits values, r = Record.ofValues kind values hfits
  /-- A failure is due to a field that does not fit. -/
  outOfBounds_of_failure : ∀ scope f, (decodeAs mode scope payload).value = .failure f →
    ∃ e, f.error = .outOfBounds e
  /-- What is not read by one table keeps the evidence. -/
  keeps_decodeAs : ∀ scope, (decodeAs mode scope payload).value.Keeps (evidence payload)
  /-- What is not read by both tables keeps the evidence. -/
  keeps_decode : (decode mode prefer payload).value.outcome.Keeps (evidence payload)
  /-- The evidence stands for all bytes of the payload. -/
  decode?_rawHex : Hex.decode? (evidence payload).rawHex = some ((bytes? payload).getD [])
  /-- It is written in lower case. -/
  isLower_rawHex : ∀ c ∈ (evidence payload).rawHex.toList, '0' ≤ c ∧ c ≤ '9' ∨ 'a' ≤ c ∧ c ≤ 'f'
  /-- The log is what there is to report about the tables that are tried, in order. -/
  log_decode : (decode mode prefer payload).log =
    (attempted mode prefer payload).flatMap fun scope =>
      (decodeAs mode scope payload).value.report
  /-- These are as many entries as tables are tried in vain, and none is serious. -/
  map_severity_log : (decode mode prefer payload).log.map (·.severity) =
    ((attempted mode prefer payload).filter fun scope =>
      !(decodeAs mode scope payload).value.isDecoded).map fun _ => .debug

/-- **Every payload is answered.** Whatever a payload is, each way of decoding it gives an outcome,
which is a record or keeps the evidence; the decoders never break down, and no warning is logged. -/
theorem alwaysAnswered (mode : TagMode) (prefer : Option Scope) (payload : Option String) :
    AlwaysAnswered mode prefer payload where
  decodeAsWith_eq scope := decodeAsWith_decode mode scope payload
  fits_of_decoded scope r hr := by
    rcases value_decodeAs_cases mode scope payload with ⟨_, hunknown⟩ | ⟨_, -, houtcome⟩
    · cases hunknown.symm.trans hr
    · exact Scope.fits_of_decoded (houtcome.symm.trans hr)
  outOfBounds_of_failure scope f hf := by
    rcases value_decodeAs_cases mode scope payload with ⟨_, hunknown⟩ | ⟨_, -, houtcome⟩
    · cases hunknown.symm.trans hf
    · exact Scope.outOfBounds_of_failure (houtcome.symm.trans hf)
  keeps_decodeAs scope := keeps_decodeAs mode scope payload
  keeps_decode := keeps_decode mode prefer payload
  decode?_rawHex := decode?_rawHex_evidence payload
  isLower_rawHex c hc := by
    rw [evidence_eq, shownBytes, Hex.encode, String.toList_ofList] at hc
    exact Hex.isLower_of_mem_digits hc
  log_decode := log_decode mode prefer payload
  map_severity_log := map_severity_log_decode mode prefer payload

end Payload

end MessageGateway
