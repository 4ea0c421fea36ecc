import Mathlib.Data.List.ReduceOption
import MessageGateway.ProgramLog
import MessageGateway.Proofs.Payload.BothTables
import MessageGateway.Proofs.Payload.Spelling

/-!
# Events of a log

A line of a log that reports an event is any text without a marker, the marker, and a spelling of
the bytes of the event (`ProgramLog.Reports`). The marker cannot overlap itself, so it is the first
of the line, and what follows it is the payload. Every other entry that is looked at here holds no
payload (`ProgramLog.IsNoise`). Decoding goes entry by entry: one that reports an event adds the
outcome of its bytes in front of the outcomes of the rest, and one that holds nothing adds nothing,
so that the events of a log are decoded one by one and in order, whatever stands between them
(`ProgramLog.events_decoded_in_order`).

## Main definitions

* `MessageGateway.ProgramLog.FirstMarker`.
* `MessageGateway.ProgramLog.Reports`, `MessageGateway.ProgramLog.IsNoise`,
  `MessageGateway.ProgramLog.Holds`.
* `MessageGateway.ProgramLog.EventOutcome`.

## Main results

* `MessageGateway.ProgramLog.marker_prefix_append_iff`,
  `MessageGateway.ProgramLog.afterMarker?_append`.
* `MessageGateway.ProgramLog.events_decoded_in_order`.
-/

namespace MessageGateway

namespace ProgramLog

/-! ### Markers -/

/-- The first character of the marker does not come again in it. -/
private theorem exists_marker_eq : ∃ c rest, marker = c :: rest ∧ c ∉ rest :=
  ⟨'P', "rogram data: ".toList, rfl, by decide⟩

/-- The marker does not overlap itself: where one starts in front of another, it ends there, too. -/
theorem marker_prefix_append_iff {before after : List Char} :
    marker <+: before ++ (marker ++ after) ↔ before = [] ∨ marker <+: before := by
  constructor
  · rintro ⟨rest, h⟩
    rcases List.append_eq_append_iff.mp h with ⟨between, rfl, -⟩ | ⟨overlap, hmarker, hrest⟩
    · exact .inr (List.prefix_append _ _)
    · obtain ⟨c, tail, htail, hc⟩ := exists_marker_eq
      cases before with
      | nil => exact .inl rfl
      | cons b before =>
        cases overlap with
        | nil => exact .inr ⟨[], by rw [hmarker, List.append_nil, List.append_nil]⟩
        | cons d overlap =>
          -- The second marker would start inside the first, with its first character.
          rw [htail] at hmarker hrest
          obtain ⟨rfl, -⟩ := List.cons.inj hrest
          obtain ⟨-, rfl⟩ := List.cons.inj hmarker
          exact absurd (List.mem_append_right before List.mem_cons_self) hc
  · rintro (rfl | ⟨between, rfl⟩)
    · exact List.prefix_append _ _
    · rw [List.append_assoc]
      exact List.prefix_append _ _

theorem afterMarker?_marker_append (after : List Char) :
    afterMarker? (marker ++ after) = some after := by
  obtain ⟨c, tail, htail, -⟩ := exists_marker_eq
  have hprefix : marker.isPrefixOf (marker ++ after) = true :=
    List.isPrefixOf_iff_prefix.mpr (List.prefix_append _ _)
  have hdrop : (marker ++ after).drop marker.length = after := List.drop_left
  rw [htail, List.cons_append] at hprefix hdrop ⊢
  rw [afterMarker?, htail, if_pos hprefix, hdrop]

theorem afterMarker?_cons_of_not_start {c : Char} {cs : List Char} (h : ¬ marker <+: c :: cs) :
    afterMarker? (c :: cs) = afterMarker? cs := by
  rw [afterMarker?, if_neg (mt List.isPrefixOf_iff_prefix.mp h)]

/-- Behind a text without a marker, the next marker is found. -/
theorem afterMarker?_append (after : List Char) : {before : List Char} → ¬ marker <:+: before →
    afterMarker? (before ++ (marker ++ after)) = some after
  | [], _ => afterMarker?_marker_append after
  | c :: before, h => by
      have hnot : ¬ marker <+: (c :: before) ++ (marker ++ after) := fun hp =>
        h ((marker_prefix_append_iff.mp hp).resolve_left (List.cons_ne_nil c before)).isInfix
      rw [List.cons_append] at hnot ⊢
      rw [afterMarker?_cons_of_not_start hnot]
      exact afterMarker?_append after fun hinfix => h (List.infix_cons hinfix)

/-- Nothing is found in a text without a marker. -/
theorem afterMarker?_eq_none : {cs : List Char} → ¬ marker <:+: cs → afterMarker? cs = none
  | [], _ => rfl
  | c :: cs, h => by
      rw [afterMarker?_cons_of_not_start fun hp => h hp.isInfix]
      exact afterMarker?_eq_none fun hinfix => h (List.infix_cons hinfix)

/-- A text in front of its first marker and behind it. -/
structure FirstMarker (before after cs : List Char) : Prop where
  eq : cs = before ++ marker ++ after
  /-- No marker starts earlier. -/
  length_le : ∀ before' after', cs = before' ++ marker ++ after' → before.length ≤ before'.length

/-- In front of the first marker there is none. -/
theorem FirstMarker.not_infix {before after cs : List Char} (h : FirstMarker before after cs) :
    ¬ marker <:+: before := by
  rintro ⟨earlier, between, rfl⟩
  have hlen := h.length_le earlier (between ++ marker ++ after) (by
    rw [h.eq]
    simp only [List.append_assoc])
  obtain ⟨c, tail, htail, -⟩ := exists_marker_eq
  rw [List.length_append, List.length_append, htail, List.length_cons] at hlen
  omega

/-! ### Entries -/

/-- A line reports a message: it is a text without a marker, the marker, and a spelling of the
bytes of the message. -/
def Reports (line : String) (raw : Bytes) : Prop :=
  raw ≠ [] ∧ ∃ (before : List Char) (payload : String), ¬ marker <:+: before ∧
    Payload.IsSpelling raw payload ∧ line.toList = before ++ marker ++ payload.toList

/-- An entry holds no payload. -/
inductive IsNoise : Option String → Prop
  /-- It is no text. -/
  | notText : IsNoise none
  /-- It has no marker. -/
  | unmarked {line : String} (h : ¬ marker <:+: line.toList) : IsNoise (some line)
  /-- There are only blanks behind its first marker. -/
  | blank {line : String} {before after : List Char} (hfirst : FirstMarker before after line.toList)
      (hblank : ∀ c ∈ after, isBlank c = true) : IsNoise (some line)

/-- What an entry of a log holds: a message that it reports, or nothing. -/
inductive Holds : Option String → Option Bytes → Prop
  | message {line : String} {raw : Bytes} (h : Reports line raw) : Holds (some line) (some raw)
  | nothing {entry : Option String} (h : IsNoise entry) : Holds entry none

theorem payload?_of_isNoise {entry : Option String} (h : IsNoise entry) :
    payload? entry = none := by
  cases h with
  | notText => rfl
  | unmarked h => rw [payload?, Option.bind_some, afterMarker?_eq_none h]
  | blank hfirst hblank =>
    rw [payload?, Option.bind_some, hfirst.eq, List.append_assoc,
      afterMarker?_append _ hfirst.not_infix]
    simp only [strip, stripWhile_eq_nil hblank, List.isEmpty_nil, if_true]

/-- The payload of a line that reports a message has the bytes of the message. -/
theorem payload?_of_reports {line : String} {raw : Bytes} (h : Reports line raw) :
    ∃ payload, payload? (some line) = some payload ∧
      Payload.bytes? (some payload) = some raw := by
  obtain ⟨hraw, before, payload, hbefore, hspelling, hline⟩ := h
  obtain ⟨dropped, hdropped, hstrip⟩ := Payload.strip_of_isSpelling hspelling
  have hne : strip payload.toList ≠ [] := by
    rw [hstrip, Base64.rdrop_encodeChars hdropped]
    exact List.append_ne_nil_of_left_ne_nil
      (mt List.map_eq_nil_iff.mp (Base64.sextets_ne_nil hraw)) _
  refine ⟨String.ofList (strip payload.toList), ?_, ?_⟩
  · rw [payload?, Option.bind_some, hline, List.append_assoc, afterMarker?_append _ hbefore]
    exact if_neg (mt List.isEmpty_iff.mp hne)
  · rw [hstrip]
    exact Payload.bytes?_of_isSpelling (Payload.isSpelling_rdrop hdropped)

/-! ### Runs -/

/-- What becomes of a reported message: the outcome that it has as an event, or, if it is too short
for a tag, an unknown payload marked as invalid. -/
def EventOutcome (mode : TagMode) (raw : Bytes) (x : Outcome) : Prop :=
  (8 ≤ raw.length → (Scope.event.decode mode raw).value = .ok x) ∧
    (raw.length < 8 → x = .unknown ⟨"invalid", Hex.encode raw, "event"⟩)

/-- A payload has the outcome of its bytes. -/
theorem eventOutcome_of_bytes? {mode : TagMode} {payload : Option String} {raw : Bytes}
    (h : Payload.bytes? payload = some raw) :
    EventOutcome mode raw (Payload.decodeAs mode .event payload).value := by
  constructor
  · intro hlen
    rw [Payload.value_decodeAs_of_bytes? h hlen, Scope.decode_eq_outcome hlen]
  · intro hlen
    simp only [Payload.value_decodeAs, h]
    exact if_pos hlen

variable {mode : TagMode} {entry : Option String} {entries : List (Option String)}

/-- An entry that holds nothing adds nothing. -/
theorem value_decode_cons_of_isNoise (h : IsNoise entry) :
    (decode mode (entry :: entries)).value = (decode mode entries).value := by
  rw [decode, payloads, List.filterMap_cons_none (payload?_of_isNoise h)]
  rfl

/-- A line that reports a message adds its outcome in front of the others. -/
theorem value_decode_cons_of_reports {line : String} {raw : Bytes} (h : Reports line raw) :
    ∃ x, EventOutcome mode raw x ∧
      (decode mode (some line :: entries)).value = x :: (decode mode entries).value := by
  obtain ⟨payload, hpayload, hbytes⟩ := payload?_of_reports h
  refine ⟨_, eventOutcome_of_bytes? hbytes, ?_⟩
  rw [decode, payloads, List.filterMap_cons_some hpayload]
  rfl

/-- **Every event of a log is decoded, once and in order.** A log whose entries report messages or
hold nothing has one outcome for each of these messages, in their order. -/
theorem events_decoded_in_order {held : List (Option Bytes)} (h : List.Forall₂ Holds entries held) :
    List.Forall₂ (EventOutcome mode) held.reduceOption (decode mode entries).value := by
  induction h with
  | nil => exact .nil
  | cons hentry _ ih =>
    cases hentry with
    | message hreports =>
      obtain ⟨x, hx, hdecode⟩ := value_decode_cons_of_reports hreports
      rw [hdecode, List.reduceOption_cons_of_some]
      exact .cons hx ih
    | nothing hnoise =>
      rw [value_decode_cons_of_isNoise hnoise, List.reduceOption_cons_of_none]
      exact ih

/-- A switched-on system and a byte that follows it. -/
def sampleEvent : Bytes :=
  [0x12, 0x83, 0x29, 0x18, 0x10, 0x74, 0x29, 0x76, 0x01, 0xff]

/-- A log with an entry that is no text, a torn marker, a marker with blanks only, an event behind
a torn marker, and an event that is too short. -/
def sampleLog : List (Option String) :=
  [none, some "Program log: Program data:", some "Program data: \t",
    some "Program data:Program data: \u3000EoMpGBB0KXYB/w=\n", some "Program data: AAECAw"]

theorem events_decoded_in_order_sampleLog :
    List.Forall₂ Holds sampleLog [none, none, none, some sampleEvent, some [0, 1, 2, 3]] ∧
      ∃ x, (Scope.event.decode .static sampleEvent).value = .ok x ∧
        (decode .static sampleLog).value = [x, .unknown ⟨"invalid", "00010203", "event"⟩] := by
  have hnone : Holds none none := .nothing .notText
  have htorn : Holds (some "Program log: Program data:") none :=
    .nothing (.unmarked (by decide +kernel))
  have hfirst : FirstMarker [] ['\t'] "Program data: \t".toList :=
    ⟨rfl, fun _ _ _ => Nat.zero_le _⟩
  have hblank : Holds (some "Program data: \t") none :=
    .nothing (.blank hfirst (List.forall_mem_singleton.mpr rfl))
  have hevent : Holds (some "Program data:Program data: \u3000EoMpGBB0KXYB/w=\n")
      (some sampleEvent) :=
    .message ⟨List.cons_ne_nil _ _, "Program data:".toList, "\u3000EoMpGBB0KXYB/w=\n",
      by decide +kernel,
      ⟨['\u3000'], ['\n'], 1, List.forall_mem_singleton.mpr rfl, List.forall_mem_singleton.mpr rfl,
        by decide +kernel, by decide +kernel⟩, by decide +kernel⟩
  have hshort : Holds (some "Program data: AAECAw") (some [0, 1, 2, 3]) :=
    .message ⟨List.cons_ne_nil _ _, [], "AAECAw", by decide +kernel,
      ⟨[], [], 2, List.forall_mem_nil _, List.forall_mem_nil _, by decide +kernel,
        by decide +kernel⟩, by decide +kernel⟩
  have hlog : List.Forall₂ Holds sampleLog
      [none, none, none, some sampleEvent, some [0, 1, 2, 3]] :=
    .cons hnone (.cons htorn (.cons hblank (.cons hevent (.cons hshort .nil))))
  have hdecoded : List.Forall₂ (EventOutcome .static) [sampleEvent, [0, 1, 2, 3]]
      (decode .static sampleLog).value := events_decoded_in_order hlog
  obtain ⟨x, rest, hx, hrest, hdecode⟩ := List.forall₂_cons_left_iff.mp hdecoded
  obtain ⟨y, rest, hy, hnil, rfl⟩ := List.forall₂_cons_left_iff.mp hrest
  obtain rfl := List.forall₂_nil_left_iff.mp hnil
  refine ⟨hlog, x, hx.1 (by decide), ?_⟩
  rw [hdecode, hy.2 (by decide)]
  rfl

end ProgramLog

end MessageGateway
