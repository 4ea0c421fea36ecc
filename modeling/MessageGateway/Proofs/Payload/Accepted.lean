import MessageGateway.Payload
import MessageGateway.Proofs.Bytes.Base64.Accepted

/-!
# Which texts are payloads

A well-formed text is base 64 between blanks: digits of whole bytes, and no padding but what
completes their last group, whole or in part (`Payload.IsWellFormed`). Well-formed texts are
accepted, and so are those that have padding behind complete groups, which no group needs
(`Payload.IsOverpadded`). No other text is: it has no bytes, and whatever is asked of it, the
outcome is an unknown payload marked as invalid.

## Main definitions

* `MessageGateway.Payload.IsWellFormed`, `MessageGateway.Payload.IsOverpadded`.

## Main results

* `MessageGateway.Payload.bytes?_eq_some_iff`.
* `MessageGateway.Payload.accepted_texts`.
* `MessageGateway.Payload.overpadded_is_accepted`.
-/

namespace MessageGateway

namespace Payload

variable {text : String} {raw : Bytes} {payload : Option String}

/-- A text is base 64 of a byte string: digits between blanks and, behind them, no more padding
signs than their last group lacks. -/
def IsWellFormed (text : String) (raw : Bytes) : Prop :=
  ∃ digits pads, Base64.IsWritten (strip text.toList) digits pads ∧
    Base64.Completes digits pads ∧ Base64.Fills digits raw

/-- A text is base 64 of a byte string, but for padding signs behind complete groups. -/
def IsOverpadded (text : String) (raw : Bytes) : Prop :=
  ∃ digits pads, Base64.IsWritten (strip text.toList) digits pads ∧
    Base64.IsSurplus digits pads ∧ Base64.Fills digits raw

/-- The texts that have bytes. -/
theorem bytes?_eq_some_iff :
    bytes? (some text) = some raw ↔ IsWellFormed text raw ∨ IsOverpadded text raw := by
  rw [bytes?, Option.bind_some, textBytes?, Base64.decodeChars?_complete_eq_some_iff]
  simp only [IsWellFormed, IsOverpadded, ← exists_or, ← and_or_left, ← or_and_right]

/-- No text is well-formed that has padding behind complete groups. -/
theorem IsOverpadded.not_isWellFormed {raw' : Bytes} (h : IsOverpadded text raw) :
    ¬ IsWellFormed text raw' := by
  obtain ⟨digits, pads, hwritten, ⟨-, hdvd, hpos⟩, -⟩ := h
  rintro ⟨digits', pads', hwritten', hcompletes, -⟩
  obtain ⟨rfl, rfl⟩ := hwritten.unique hwritten'
  unfold Base64.Completes at hcompletes
  omega

/-- A payload without bytes is invalid, whatever is asked of it. -/
theorem invalid_of_bytes?_eq_none (h : bytes? payload = none) :
    (∀ mode prefer, decode mode prefer payload =
        .silent ⟨none, .unknown ⟨"invalid", "", "unknown"⟩⟩) ∧
      ∀ mode scope, decodeAs mode scope payload =
        .silent (.unknown ⟨"invalid", "", scope.label⟩) := by
  constructor
  · intro mode prefer
    simp only [decode, decodeWith, h]
    rfl
  · intro mode scope
    simp only [decodeAs, h]
    rfl

/-- **Which texts are accepted.** A text has the bytes that it is well-formed base 64 of, or that it
is base 64 of but for padding behind complete groups; so it has bytes without being well-formed
exactly when there is such padding. Every other text has no bytes and is invalid. -/
theorem accepted_texts (text : String) :
    (∀ raw, bytes? (some text) = some raw ↔ IsWellFormed text raw ∨ IsOverpadded text raw) ∧
      ((∀ raw, bytes? (some text) = some raw → IsWellFormed text raw) ↔
        ¬ ∃ raw, IsOverpadded text raw) ∧
      ((¬ ∃ raw, IsWellFormed text raw ∨ IsOverpadded text raw) →
        bytes? (some text) = none ∧
          (∀ mode prefer, decode mode prefer (some text) =
            .silent ⟨none, .unknown ⟨"invalid", "", "unknown"⟩⟩) ∧
          ∀ mode scope, decodeAs mode scope (some text) =
            .silent (.unknown ⟨"invalid", "", scope.label⟩)) := by
  refine ⟨fun raw => bytes?_eq_some_iff, ⟨fun hall => ?_, fun hnone raw hraw => ?_⟩,
    fun hnone => ?_⟩
  · rintro ⟨raw, hover⟩
    exact hover.not_isWellFormed (hall raw (bytes?_eq_some_iff.mpr (.inr hover)))
  · exact (bytes?_eq_some_iff.mp hraw).resolve_right fun hover => hnone ⟨raw, hover⟩
  · have hbytes : bytes? (some text) = none :=
      Option.eq_none_iff_forall_ne_some.mpr fun raw hraw =>
        hnone ⟨raw, bytes?_eq_some_iff.mp hraw⟩
    exact ⟨hbytes, invalid_of_bytes?_eq_none hbytes⟩

/-- Twelve digits are three complete groups, and a padding sign behind them does not keep the
message of nine bytes from being read. -/
theorem overpadded_is_accepted :
    bytes? (some "Tn18a1s7PBoB=") =
        some [0x4e, 0x7d, 0x7c, 0x6b, 0x5b, 0x3b, 0x3c, 0x1a, 0x01] ∧
      (decode .static none (some "Tn18a1s7PBoB=")).value.outcome.isDecoded = true ∧
      ¬ ∃ raw, IsWellFormed "Tn18a1s7PBoB=" raw := by
  have hbytes : bytes? (some "Tn18a1s7PBoB=") =
      some [0x4e, 0x7d, 0x7c, 0x6b, 0x5b, 0x3b, 0x3c, 0x1a, 0x01] := by decide +kernel
  refine ⟨hbytes, by decide +kernel, ?_⟩
  rintro ⟨raw, digits, pads, hwritten, hcompletes, -⟩
  have hdigits : "Tn18a1s7PBoB".toList.all (fun c => decide (c ∈ Base64.alphabet)) = true := by
    decide +kernel
  have hstandard : Base64.IsWritten (strip "Tn18a1s7PBoB=".toList) "Tn18a1s7PBoB".toList 1 :=
    ⟨by decide +kernel, fun c hc => of_decide_eq_true (List.all_eq_true.mp hdigits c hc),
      by decide +kernel⟩
  obtain ⟨rfl, rfl⟩ := hwritten.unique hstandard
  revert hcompletes
  unfold Base64.Completes
  decide +kernel

end Payload

end MessageGateway
