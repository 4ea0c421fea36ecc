import MessageGateway.Payload
import MessageGateway.Proofs.Bytes.Base64
import MessageGateway.Proofs.Text.Blank

/-!
# Spellings of a payload

A byte string is carried as its standard text in base 64. On the way blanks may come to stand around
the text, and padding at its end may get lost, whole or in part. Every text that comes about so
(`Payload.IsSpelling`) has the same bytes, and so the same outcomes, as the standard text.

## Main definitions

* `MessageGateway.Payload.IsSpelling`.

## Main results

* `MessageGateway.Payload.decode_congr`, `MessageGateway.Payload.decodeAs_congr`.
* `MessageGateway.Payload.same_for_all_spellings`.
-/

namespace MessageGateway

/-! ### Blanks and digits -/

private theorem isBlank_of_mem_alphabet {c : Char} (h : c ∈ Base64.alphabet) :
    isBlank c = false := by
  have hall : (Base64.alphabet.all fun c => !isBlank c) = true := by decide +kernel
  simpa using List.all_eq_true.mp hall c h

/-- Blanks around digits and padding are passed over. -/
theorem strip_spelling {before after : List Char} (raw : Bytes) (pads : Nat)
    (hbefore : ∀ c ∈ before, isBlank c = true) (hafter : ∀ c ∈ after, isBlank c = true) :
    strip (before ++ ((Base64.sextets raw).map Base64.digit ++ List.replicate pads '=') ++ after) =
      (Base64.sextets raw).map Base64.digit ++ List.replicate pads '=' := by
  rw [strip, stripWhile_append hbefore hafter]
  refine stripWhile_eq_self fun c hc => ?_
  rcases List.mem_append.mp hc with hdigit | hpad
  · exact isBlank_of_mem_alphabet (Base64.mem_alphabet_of_mem_digits hdigit)
  · rw [List.eq_of_mem_replicate hpad]
    decide

namespace Payload

variable {payload payload' : Option String} {raw : Bytes} {text : String}

/-! ### The same bytes -/

/-- What becomes of a payload depends on its bytes only. -/
theorem decodeAs_congr (h : bytes? payload = bytes? payload') (mode : TagMode) (scope : Scope) :
    decodeAs mode scope payload = decodeAs mode scope payload' := by
  rw [decodeAs, decodeAs, h]

theorem decode_congr (h : bytes? payload = bytes? payload') (mode : TagMode)
    (prefer : Option Scope) : decode mode prefer payload = decode mode prefer payload' := by
  rw [decode, decode, decodeWith, decodeWith, h]

/-! ### Spellings -/

/-- A text is the standard text of a byte string, without some or all of the padding signs at its
end, between any blanks. -/
def IsSpelling (raw : Bytes) (text : String) : Prop :=
  ∃ (before after : List Char) (dropped : Nat),
    (∀ c ∈ before, isBlank c = true) ∧ (∀ c ∈ after, isBlank c = true) ∧
      dropped ≤ ((Base64.encode raw).toList.rtakeWhile (· == '=')).length ∧
      text.toList = before ++ (Base64.encode raw).toList.rdrop dropped ++ after

/-- The standard text is a spelling. -/
theorem isSpelling_encode (raw : Bytes) : IsSpelling raw (Base64.encode raw) :=
  ⟨[], [], 0, nofun, nofun, Nat.zero_le _, by simp [List.rdrop]⟩

/-- Without some or all of its padding the standard text is a spelling. -/
theorem isSpelling_rdrop {dropped : Nat} (h : dropped ≤ Base64.padCount raw) :
    IsSpelling raw (String.ofList ((Base64.encodeChars raw).rdrop dropped)) := by
  refine ⟨[], [], dropped, List.forall_mem_nil _, List.forall_mem_nil _, ?_, ?_⟩
  · rwa [Base64.encode, String.toList_ofList, Base64.rtakeWhile_encodeChars,
      List.length_replicate]
  · rw [Base64.encode, String.toList_ofList, String.toList_ofList, List.nil_append,
      List.append_nil]

/-- That is what is left of any spelling without the blanks around it. -/
theorem strip_of_isSpelling (h : IsSpelling raw text) :
    ∃ dropped ≤ Base64.padCount raw,
      strip text.toList = (Base64.encodeChars raw).rdrop dropped := by
  obtain ⟨before, after, dropped, hbefore, hafter, hdropped, htext⟩ := h
  rw [Base64.encode, String.toList_ofList] at hdropped htext
  rw [Base64.rtakeWhile_encodeChars, List.length_replicate] at hdropped
  refine ⟨dropped, hdropped, ?_⟩
  rw [htext, Base64.rdrop_encodeChars hdropped, strip_spelling raw _ hbefore hafter]

/-- Every spelling of a byte string has its bytes. -/
theorem bytes?_of_isSpelling (h : IsSpelling raw text) : bytes? (some text) = some raw := by
  obtain ⟨dropped, hdropped, hstrip⟩ := strip_of_isSpelling h
  rw [bytes?, Option.bind_some, textBytes?, hstrip, Base64.decodeChars?_complete_rdrop hdropped]

/-- **All spellings of a payload are the same.** A spelling of a byte string is read as that byte
string, and whatever becomes of it, by one table or by both, becomes of the standard text. -/
theorem same_for_all_spellings (h : IsSpelling raw text) :
    bytes? (some text) = some raw ∧
      (∀ (mode : TagMode) (prefer : Option Scope),
        decode mode prefer (some text) = decode mode prefer (some (Base64.encode raw))) ∧
      ∀ (mode : TagMode) (scope : Scope),
        decodeAs mode scope (some text) = decodeAs mode scope (some (Base64.encode raw)) := by
  have hbytes : bytes? (some text) = some raw := bytes?_of_isSpelling h
  have hsame : bytes? (some text) = bytes? (some (Base64.encode raw)) := by
    rw [hbytes, bytes?_of_isSpelling (isSpelling_encode raw)]
  exact ⟨hbytes, fun mode prefer => decode_congr hsame mode prefer,
    fun mode scope => decodeAs_congr hsame mode scope⟩

/-- A message of ten bytes in base 64, without one of its two padding signs, between an ideographic
space and a line feed. -/
theorem same_for_all_spellings_tenBytes :
    IsSpelling [0x4e, 0x7d, 0x7c, 0x6b, 0x5b, 0x3b, 0x3c, 0x1a, 0x01, 0xff]
        "\u3000Tn18a1s7PBoB/w=\n" ∧
      bytes? (some "\u3000Tn18a1s7PBoB/w=\n") =
        some [0x4e, 0x7d, 0x7c, 0x6b, 0x5b, 0x3b, 0x3c, 0x1a, 0x01, 0xff] := by
  have hspelling : IsSpelling [0x4e, 0x7d, 0x7c, 0x6b, 0x5b, 0x3b, 0x3c, 0x1a, 0x01, 0xff]
      "\u3000Tn18a1s7PBoB/w=\n" :=
    ⟨['\u3000'], ['\n'], 1, List.forall_mem_singleton.mpr rfl, List.forall_mem_singleton.mpr rfl,
      by decide +kernel, by decide +kernel⟩
  exact ⟨hspelling, (same_for_all_spellings hspelling).1⟩

end Payload

end MessageGateway
