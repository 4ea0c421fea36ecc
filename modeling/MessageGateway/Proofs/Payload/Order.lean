import MessageGateway.Proofs.Payload.BothTables

/-!
# The order of the tables

Which table is tried first makes a difference only where both tables have the tag of a payload and
both read it or both fail (`Payload.IsAlike`). There is one such tag, that of `sendMessage` and
`sendRequested`, and only while the tags of instructions are fixed (`Payload.IsContested`). From
this tag an event is never guessed, so a guess of the table never gives another result than to try
the instructions first.

## Main definitions

* `MessageGateway.Payload.IsAlike`, `MessageGateway.Payload.IsContested`.

## Main results

* `MessageGateway.Payload.isContested_iff`.
* `MessageGateway.Payload.order_matters_iff_contested`.
-/

namespace MessageGateway

namespace Payload

variable {mode : TagMode} {payload : Option String} {scope : Scope} {raw : Bytes}
  {kind kind' : Kind}

/-! ### Payloads with the tag of a kind -/

/-- A payload with the tag of a kind has the outcome of its bytes. -/
theorem value_decodeAs_of_kind (hraw : bytes? payload = some raw)
    (hkind : scope.kindTagged? mode (tagOf raw) = some kind) :
    (decodeAs mode scope payload).value = scope.outcome mode raw := by
  have hlen := (Scope.kindTagged?_tagOf_eq_some_iff.mp hkind).2.length_le
  rw [Kind.length_tag] at hlen
  exact value_decodeAs_of_bytes? hraw hlen

/-- A record that the decoder of the kind gives is that outcome. -/
theorem value_decodeAs_of_decode {r : Record} (hraw : bytes? payload = some raw)
    (hkind : scope.kindTagged? mode (tagOf raw) = some kind) (hdecode : kind.decode raw = .ok r) :
    (decodeAs mode scope payload).value = .decoded r := by
  rw [value_decodeAs_of_kind hraw hkind, Scope.outcome, hkind]
  simp only [hdecode]

/-- It is read exactly when the decoder of the kind reads it. -/
theorem isDecoded_decodeAs_iff (hraw : bytes? payload = some raw)
    (hkind : scope.kindTagged? mode (tagOf raw) = some kind) :
    (decodeAs mode scope payload).value.isDecoded ↔ ∃ r, kind.decode raw = .ok r := by
  rw [value_decodeAs_of_kind hraw hkind, Scope.isDecoded_outcome_iff, hkind]
  simp only [Option.some.injEq, exists_eq_left']

/-- Otherwise it is a failure. -/
theorem isFailure_decodeAs_iff (hraw : bytes? payload = some raw)
    (hkind : scope.kindTagged? mode (tagOf raw) = some kind) :
    (decodeAs mode scope payload).value.IsFailure ↔ ¬ ∃ r, kind.decode raw = .ok r := by
  rw [value_decodeAs_of_kind hraw hkind, Scope.isFailure_outcome_iff, hkind]
  simp only [Option.some.injEq, exists_eq_left']
  cases kind.decode raw <;> simp

/-- A payload that is not unknown has the tag of a kind. -/
theorem exists_kind_of_not_isUnknown (h : ¬ (decodeAs mode scope payload).value.IsUnknown) :
    ∃ raw kind, bytes? payload = some raw ∧ scope.kindTagged? mode (tagOf raw) = some kind := by
  obtain ⟨raw, hraw, houtcome⟩ := (value_decodeAs_cases mode scope payload).resolve_left h
  rw [houtcome, Scope.isUnknown_outcome_iff] at h
  obtain ⟨kind, hkind⟩ := Option.ne_none_iff_exists'.mp h
  exact ⟨raw, kind, hraw, hkind⟩

/-! ### Contested payloads -/

/-- Both tables read a payload, or both fail on it. -/
def IsAlike (mode : TagMode) (payload : Option String) : Prop :=
  (∀ scope, (decodeAs mode scope payload).value.isDecoded) ∨
    ∀ scope, (decodeAs mode scope payload).value.IsFailure

/-- A payload carries, while the tags of instructions are fixed, the tag that both tables have, and
either both of its layouts can be read or neither. -/
def IsContested (mode : TagMode) (payload : Option String) : Prop :=
  mode = .static ∧ ∃ raw, bytes? payload = some raw ∧ tagOf raw = "d918849a046c777a" ∧
    ((∃ r, Kind.sendMessage.decode raw = .ok r) ↔ ∃ r, Kind.sendRequested.decode raw = .ok r)

/-- A payload whose tag both tables have is alike to them when both kinds can be read or neither. -/
theorem isAlike_iff (hraw : bytes? payload = some raw)
    (hkind : Scope.instruction.kindTagged? mode (tagOf raw) = some kind)
    (hkind' : Scope.event.kindTagged? mode (tagOf raw) = some kind') :
    IsAlike mode payload ↔
      ((∃ r, kind.decode raw = .ok r) ↔ ∃ r, kind'.decode raw = .ok r) := by
  rw [IsAlike, Scope.forall_iff .instruction, Scope.forall_iff .instruction]
  refine Iff.trans ?_ iff_iff_and_or_not_and_not.symm
  exact or_congr
    (and_congr (isDecoded_decodeAs_iff hraw hkind) (isDecoded_decodeAs_iff hraw hkind'))
    (and_congr (isFailure_decodeAs_iff hraw hkind) (isFailure_decodeAs_iff hraw hkind'))

theorem IsAlike.not_isUnknown (h : IsAlike mode payload) (scope : Scope) :
    ¬ (decodeAs mode scope payload).value.IsUnknown := by
  rintro ⟨u, hu⟩
  rcases h with h | h
  · have hdecoded := h scope
    rw [hu] at hdecoded
    simp at hdecoded
  · have hfailure := h scope
    rw [hu] at hfailure
    simp at hfailure

/-- The contested payloads are those that both tables read, or both fail on. -/
theorem isContested_iff : IsContested mode payload ↔ IsAlike mode payload := by
  constructor
  · rintro ⟨rfl, raw, hraw, htag, hboth⟩
    refine (isAlike_iff hraw ?_ ?_).mpr hboth
    · rw [htag]
      decide +kernel
    · rw [htag]
      decide +kernel
  · intro h
    obtain ⟨raw, kind, hraw, hkind⟩ := exists_kind_of_not_isUnknown (h.not_isUnknown .instruction)
    obtain ⟨raw', kind', hraw', hkind'⟩ := exists_kind_of_not_isUnknown (h.not_isUnknown .event)
    obtain rfl : raw = raw' := Option.some.inj (hraw.symm.trans hraw')
    obtain ⟨hmem, htag⟩ := Scope.kindTagged?_eq_some_iff.mp hkind
    obtain ⟨hmem', htag'⟩ := Scope.kindTagged?_eq_some_iff.mp hkind'
    obtain ⟨rfl, rfl, rfl⟩ := Scope.eq_of_tag_eq hmem hmem' (htag.trans htag'.symm)
    refine ⟨rfl, raw, hraw, ?_, (isAlike_iff hraw hkind hkind').mp h⟩
    rw [tagOf, ← htag]
    decide +kernel

/-! ### Orders -/

/-- From the tag that both tables have no event is guessed. -/
theorem firstTried_of_tagOf (hraw : bytes? payload = some raw)
    (htag : tagOf raw = "d918849a046c777a") (prefer : Option Scope) :
    firstTried .static prefer payload = prefer.getD .instruction := by
  have hguess : isLikelyEvent .static raw = false := by
    rw [isLikelyEvent, htag]
    decide +kernel
  rw [firstTried, hraw, Option.getD_some, firstScope, hguess]
  rfl

theorem firstTried_of_isContested (h : IsContested mode payload) (prefer : Option Scope) :
    firstTried mode prefer payload = prefer.getD .instruction := by
  obtain ⟨rfl, raw, hraw, htag, -⟩ := h
  exact firstTried_of_tagOf hraw htag prefer

/-- The result for a contested payload is that of the table that is tried first. -/
theorem scope_decode_of_isContested (h : IsContested mode payload) (prefer : Option Scope) :
    (decode mode prefer payload).value.scope = some (prefer.getD .instruction) := by
  rw [value_decode, firstTried_of_isContested h]
  refine DecodeResult.scope_settle_of_alike ?_
  rcases isContested_iff.mp h with h | h
  · exact .inl ⟨h _, h _⟩
  · exact .inr ⟨h _, h _⟩

/-- For any other payload it makes no difference which table is tried first. -/
theorem value_decode_of_not_isContested (h : ¬ IsContested mode payload) (p q : Option Scope) :
    (decode mode p payload).value = (decode mode q payload).value := by
  have hswap (first : Scope) :
      DecodeResult.settle first ⟨shownTag payload, shownBytes payload, "unknown"⟩
          (decodeAs mode first payload).value (decodeAs mode first.other payload).value =
        .settle .instruction ⟨shownTag payload, shownBytes payload, "unknown"⟩
          (decodeAs mode .instruction payload).value (decodeAs mode .event payload).value := by
    cases first with
    | instruction => rfl
    | event =>
      refine DecodeResult.settle_comm fun halike => h (isContested_iff.mpr ?_)
      rw [IsAlike, Scope.forall_iff .event, Scope.forall_iff .event]
      exact halike
  rw [value_decode, value_decode, hswap, hswap]

/-- **The order of the tables matters to contested payloads only.** Two preferences give the same
result unless the payload is contested and they differ; no preference is the same as instructions
first. With tags that are derived no payload is contested. -/
theorem order_matters_iff_contested :
    (∀ (mode : TagMode) (payload : Option String) (p q : Option Scope),
      (decode mode p payload).value = (decode mode q payload).value ↔
        ¬ IsContested mode payload ∨ p.getD .instruction = q.getD .instruction) ∧
      (∀ (payload : Option String) (p q : Option Scope),
        (decode .anchor p payload).value = (decode .anchor q payload).value) ∧
      ∀ (mode : TagMode) (payload : Option String),
        (decode mode none payload).value = (decode mode (some .instruction) payload).value := by
  have hiff (mode : TagMode) (payload : Option String) (p q : Option Scope) :
      (decode mode p payload).value = (decode mode q payload).value ↔
        ¬ IsContested mode payload ∨ p.getD .instruction = q.getD .instruction := by
    by_cases h : IsContested mode payload
    · simp only [h, not_true, false_or]
      constructor
      · intro heq
        have hscope := congrArg DecodeResult.scope heq
        rw [scope_decode_of_isContested h, scope_decode_of_isContested h] at hscope
        exact Option.some.inj hscope
      · intro hfirst
        rw [value_decode, value_decode, firstTried_of_isContested h, firstTried_of_isContested h,
          hfirst]
    · simp only [h, not_false_eq_true, true_or, iff_true]
      exact value_decode_of_not_isContested h p q
  refine ⟨hiff, fun payload p q => ?_, fun mode payload => ?_⟩
  · exact (hiff .anchor payload p q).mpr (.inl fun h => nomatch h.1)
  · exact (hiff mode payload none (some .instruction)).mpr (.inr rfl)

/-- Eight bytes with the shared tag fail as an instruction and as an event, and the failure of the
table that is tried first is the result. -/
example :
    (decode .static none (some "2RiEmgRsd3o=")).value.scope = some .instruction ∧
      (decode .static (some .event) (some "2RiEmgRsd3o=")).value.scope = some .event := by
  decide +kernel

end Payload

end MessageGateway
