import MessageGateway.Proofs.Message.Failure
import MessageGateway.Proofs.Payload.Order
import MessageGateway.Proofs.Payload.Spelling

/-!
# Events that are read as instructions

While the tags of instructions are fixed, `sendRequested` and `sendMessage` have the same tag, and
only the fields behind it tell an event from an instruction. Where the sender of an event lies, an
instruction has the size of its recipient. So an event holds an instruction as well when it is long
enough for what its sender says as a size (`Payload.HoldsInstruction`), and it is then taken for
that instruction unless events are tried first.

## Main definitions

* `MessageGateway.Payload.HoldsInstruction`.

## Main results

* `MessageGateway.Payload.exists_decode_sendMessage_iff`.
* `MessageGateway.Payload.event_read_as_instruction_iff`.
-/

namespace MessageGateway

namespace Payload

variable {payload : Option String} {raw : Bytes} {r : Record} {prefer : Option Scope}

/-! ### The layout of the instruction -/

/-- The size of the recipient if a message is `sendMessage`. If it is `sendRequested`, its sender
starts there. -/
def recipientSize (raw : Bytes) : Nat :=
  (raw.slice 24 4).toNatLE

/-- The size of the data if a message is `sendMessage`. -/
def dataSize (raw : Bytes) : Nat :=
  (raw.slice (36 + recipientSize raw) 4).toNatLE

/-- A message is long enough to be `sendMessage` with a recipient and data of these sizes. -/
def HoldsInstruction (raw : Bytes) : Prop :=
  42 + recipientSize raw ≤ raw.length ∧ 42 + recipientSize raw + dataSize raw ≤ raw.length

instance (raw : Bytes) : Decidable (HoldsInstruction raw) :=
  inferInstanceAs (Decidable (_ ∧ _))

/-- What is asked for of `sendMessage`, with its offsets. -/
theorem requests_sendMessage (raw : Bytes) :
    Kind.sendMessage.requests raw =
      [⟨"tx_id", 8, 16⟩, ⟨"recipient" ++ ".length", 24, 4⟩, ⟨"recipient", 28, recipientSize raw⟩,
        ⟨"dest_chain_id", 28 + recipientSize raw, 8⟩,
        ⟨"chain_data" ++ ".length", 36 + recipientSize raw, 4⟩,
        ⟨"chain_data", 40 + recipientSize raw, dataSize raw⟩,
        ⟨"confirmations", 40 + recipientSize raw + dataSize raw, 2⟩] := by
  have hdest : 24 + (4 + recipientSize raw) = 28 + recipientSize raw := by omega
  have hsize : 28 + recipientSize raw + 8 = 36 + recipientSize raw := by omega
  have hdata : 36 + recipientSize raw + 4 = 40 + recipientSize raw := by omega
  have hlast : 36 + recipientSize raw + (4 + dataSize raw) =
      40 + recipientSize raw + dataSize raw := by omega
  rw [dataSize] at hlast ⊢
  simp only [Kind.requests, Kind.spans, Span.walk, Span.requests, Request.total, Nat.mul_one,
    Nat.add_zero, Nat.reduceAdd, List.cons_append, List.nil_append]
  rw [← recipientSize, hdest, hsize, hdata, hlast]

/-- A message is read as `sendMessage` exactly when it is long enough for that. -/
theorem exists_decode_sendMessage_iff (hlen : tagSize ≤ raw.length) :
    (∃ r, Kind.sendMessage.decode raw = .ok r) ↔ HoldsInstruction raw := by
  rw [Kind.exists_decode_eq_ok_iff_le_length hlen, requests_sendMessage, HoldsInstruction, tagSize]
  simp only [Request.total]
  omega

/-! ### Payloads that carry an event -/

/-- A payload carries an event of the kind `sendRequested`. -/
structure CarriesEvent (payload : Option String) (raw : Bytes) (r : Record) : Prop where
  bytes?_eq : bytes? payload = some raw
  tagOf_eq : tagOf raw = "d918849a046c777a"
  decode_eq : Kind.sendRequested.decode raw = .ok r

namespace CarriesEvent

theorem of_decode (hraw : bytes? payload = some raw)
    (hevent : (Scope.event.decode .static raw).value = .ok (.decoded r))
    (hkind : r.kind = .sendRequested) : CarriesEvent payload raw r := by
  obtain ⟨kind, -, htag, hdecode⟩ := Scope.exists_kind_of_decoded hevent
  obtain ⟨body, values, _, -, rfl⟩ := Kind.decode_eq_ok_iff.mp hdecode
  obtain rfl : kind = .sendRequested := hkind
  refine ⟨hraw, ?_, hdecode⟩
  rw [Scope.tagOf_eq htag]
  decide +kernel

variable (h : CarriesEvent payload raw r)
include h

theorem kindTagged?_event :
    Scope.event.kindTagged? .static (tagOf raw) = some .sendRequested := by
  rw [h.tagOf_eq]
  decide +kernel

theorem kindTagged?_instruction :
    Scope.instruction.kindTagged? .static (tagOf raw) = some .sendMessage := by
  rw [h.tagOf_eq]
  decide +kernel

/-- The message starts with the tag of the instruction. -/
theorem tag_prefix : Kind.sendMessage.tag .static <+: raw :=
  (Scope.kindTagged?_tagOf_eq_some_iff.mp h.kindTagged?_instruction).2

theorem tagSize_le : tagSize ≤ raw.length := by
  rw [← Kind.sendMessage.length_tag .static]
  exact h.tag_prefix.length_le

/-- The table of events reads the event. -/
theorem value_decodeAs_event : (decodeAs .static .event payload).value = .decoded r :=
  value_decodeAs_of_decode h.bytes?_eq h.kindTagged?_event h.decode_eq

/-- The table of instructions reads an instruction from a payload that holds one. -/
theorem exists_value_decodeAs_instruction (hholds : HoldsInstruction raw) :
    ∃ r', Kind.sendMessage.decode raw = .ok r' ∧
      (decodeAs .static .instruction payload).value = .decoded r' := by
  obtain ⟨r', hdecode⟩ := (exists_decode_sendMessage_iff h.tagSize_le).mpr hholds
  exact ⟨r', hdecode, value_decodeAs_of_decode h.bytes?_eq h.kindTagged?_instruction hdecode⟩

/-- Otherwise it fails. -/
theorem isFailure_decodeAs_instruction (hholds : ¬ HoldsInstruction raw) :
    (decodeAs .static .instruction payload).value.IsFailure := by
  rw [isFailure_decodeAs_iff h.bytes?_eq h.kindTagged?_instruction,
    exists_decode_sendMessage_iff h.tagSize_le]
  exact hholds

/-! ### The result by both tables -/

/-- With events first the event is found. -/
theorem value_decode_event :
    (decode .static (some .event) payload).value = ⟨some .event, .decoded r⟩ := by
  rw [value_decode, firstTried_of_tagOf h.bytes?_eq h.tagOf_eq, Option.getD_some,
    h.value_decodeAs_event]
  rfl

/-- With instructions first the result depends on whether there is an instruction. -/
theorem value_decode_of_ne (hprefer : prefer ≠ some .event) :
    (decode .static prefer payload).value =
      .settle .instruction ⟨shownTag payload, shownBytes payload, "unknown"⟩
        (decodeAs .static .instruction payload).value (.decoded r) := by
  have hfirst : prefer.getD .instruction = .instruction := by
    rcases prefer with - | ⟨- | -⟩
    exacts [rfl, rfl, absurd rfl hprefer]
  rw [value_decode, firstTried_of_tagOf h.bytes?_eq h.tagOf_eq, hfirst]
  exact congrArg _ h.value_decodeAs_event

theorem value_decode_of_holdsInstruction (hholds : HoldsInstruction raw) :
    ∃ r', Kind.sendMessage.decode raw = .ok r' ∧ ∀ prefer, prefer ≠ some .event →
      (decode .static prefer payload).value = ⟨some .instruction, .decoded r'⟩ := by
  obtain ⟨r', hdecode, hvalue⟩ := h.exists_value_decodeAs_instruction hholds
  refine ⟨r', hdecode, fun prefer hprefer => ?_⟩
  rw [h.value_decode_of_ne hprefer, hvalue]
  rfl

theorem value_decode_of_not_holdsInstruction (hholds : ¬ HoldsInstruction raw)
    (prefer : Option Scope) :
    (decode .static prefer payload).value = ⟨some .event, .decoded r⟩ := by
  by_cases hprefer : prefer = some .event
  · rw [hprefer, h.value_decode_event]
  · obtain ⟨f, hf⟩ := h.isFailure_decodeAs_instruction hholds
    rw [h.value_decode_of_ne hprefer, hf]
    rfl

end CarriesEvent

/-- **When an event is read as an instruction.** While tags are fixed, an event of the kind
`sendRequested` is found if events are tried first. Otherwise it is found unless the payload holds
an instruction, which is then found in its place; so it is always found where the first bytes of
its sender are too large for a size. -/
theorem event_read_as_instruction_iff (hraw : bytes? payload = some raw)
    (hevent : (Scope.event.decode .static raw).value = .ok (.decoded r))
    (hkind : r.kind = .sendRequested) :
    tagOf raw = "d918849a046c777a" ∧
      (decode .static (some .event) payload).value = ⟨some .event, .decoded r⟩ ∧
      (∀ prefer, prefer ≠ some .event →
        ((decode .static prefer payload).value = ⟨some .event, .decoded r⟩ ↔
          ¬ HoldsInstruction raw)) ∧
      (HoldsInstruction raw → ∃ r', r'.kind = .sendMessage ∧
        (Scope.instruction.decode .static raw).value = .ok (.decoded r') ∧
        ∀ prefer, prefer ≠ some .event →
          (decode .static prefer payload).value = ⟨some .instruction, .decoded r'⟩) ∧
      (raw.length < 42 + recipientSize raw → ∀ prefer,
        (decode .static prefer payload).value = ⟨some .event, .decoded r⟩) := by
  have h := CarriesEvent.of_decode hraw hevent hkind
  refine ⟨h.tagOf_eq, h.value_decode_event, fun prefer hprefer => ⟨fun hvalue hholds => ?_,
    fun hholds => h.value_decode_of_not_holdsInstruction hholds prefer⟩, fun hholds => ?_,
    fun hlarge => h.value_decode_of_not_holdsInstruction fun hholds => ?_⟩
  · obtain ⟨r', -, hother⟩ := h.value_decode_of_holdsInstruction hholds
    rw [hother prefer hprefer] at hvalue
    cases congrArg DecodeResult.scope hvalue
  · obtain ⟨r', hdecode, hvalue⟩ := h.value_decode_of_holdsInstruction hholds
    obtain ⟨body, values, _, -, hr'⟩ := Kind.decode_eq_ok_iff.mp hdecode
    refine ⟨r', congrArg Record.kind hr', ?_, hvalue⟩
    rw [Scope.decode_of_tag (by decide) h.tag_prefix, hdecode]
    rfl
  · exact absurd hholds.1 (Nat.not_le.mpr hlarge)

/-- An event whose sender is one byte over and over. -/
def sampleValues (byte : UInt8) : Kind.sendRequested.layout.Values :=
  (7, List.replicate 32 byte, [], 0, [], 1, ())

/-- The message of the event. -/
def sampleEvent (byte : UInt8) : Bytes :=
  Kind.sendRequested.tag .static ++ Kind.sendRequested.layout.encode (sampleValues byte)

/-- With a sender of zeros the event is read as an instruction, and with one of the greatest bytes
it is not. -/
theorem event_read_as_instruction_iff_sampleEvent :
    (HoldsInstruction (sampleEvent 0) ∧ ∃ r, r.kind = .sendMessage ∧
      (decode .static none (some (Base64.encode (sampleEvent 0)))).value =
        ⟨some .instruction, .decoded r⟩) ∧
      ¬ HoldsInstruction (sampleEvent 0xff) ∧
        (decode .static none (some (Base64.encode (sampleEvent 0xff)))).value =
          ⟨some .event, .decoded (Record.ofValues .sendRequested (sampleValues 0xff)
            (by decide))⟩ := by
  have hbytes (byte : UInt8) :
      bytes? (some (Base64.encode (sampleEvent byte))) = some (sampleEvent byte) :=
    bytes?_of_isSpelling (isSpelling_encode _)
  have hmem : Kind.sendRequested ∈ Scope.event.kinds := by decide
  have hevent (byte : UInt8) (hfits : Layout.Fits _ (sampleValues byte)) :
      (Scope.event.decode .static (sampleEvent byte)).value =
        .ok (.decoded (Record.ofValues .sendRequested (sampleValues byte) hfits)) := by
    have h := Scope.decode_of_spells .static hmem (Layout.spells_encode _ hfits) []
    rwa [List.append_nil] at h
  have hholds : HoldsInstruction (sampleEvent 0) := by decide +kernel
  have hnot : ¬ HoldsInstruction (sampleEvent 0xff) := by decide +kernel
  obtain ⟨-, -, -, hinstruction, -⟩ :=
    event_read_as_instruction_iff (hbytes 0) (hevent 0 (by decide)) rfl
  obtain ⟨-, -, hfound, -, -⟩ :=
    event_read_as_instruction_iff (hbytes 0xff) (hevent 0xff (by decide)) rfl
  obtain ⟨r, hkind, -, hvalue⟩ := hinstruction hholds
  exact ⟨⟨hholds, r, hkind, hvalue none nofun⟩, hnot, (hfound none nofun).mpr hnot⟩

end Payload

end MessageGateway
