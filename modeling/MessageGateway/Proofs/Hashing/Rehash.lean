import MessageGateway.Hashing.Rehash
import MessageGateway.Proofs.Hashing.Unambiguous
import MessageGateway.Proofs.Message.Recovery

/-!
# The digest of a record and its payload

The fields that the digest of a cross-chain message covers lie on the wire just as they are hashed.
So when a payload is decoded and its record is hashed again, what is hashed is the stretch of the
payload between the tag and the signatures. The numbers of a record always fit into their fields,
so that they can be logged, and its texts are always readable. The only thing that can go wrong is a
part over its limit.

## Main definitions

* `MessageGateway.CrossChainMessage.ofValues`.
* `MessageGateway.CrossChainMessage.signaturesStart`.

## Main results

* `MessageGateway.message?_crossChainText`.
* `MessageGateway.CrossChainMessage.value_digest`.
* `MessageGateway.Scope.exists_message_of_crossChain`.
* `MessageGateway.Scope.rehash_agrees_with_wire`.
-/

namespace MessageGateway

namespace CrossChainMessage

/-- The message of the values of a cross-chain record. -/
def ofValues : Kind.crossChainLayout.Values → CrossChainMessage
  | (txId, source, dest, sender, recipient, onChain, offChain, _) =>
    ⟨txId, source, dest, sender, recipient, onChain, offChain⟩

/-- Where the signatures of a message start in its payload. -/
def signaturesStart (m : CrossChainMessage) : Nat :=
  8 + 16 + 8 + 8 + (4 + m.sender.length) + (4 + m.recipient.length) +
    (4 + m.onChainData.length) + (4 + m.offChainData.length)

/-- The signatures start behind a tag and the fields of a message. -/
theorem length_append_wire (m : CrossChainMessage) {tag : Bytes} (htag : tag.length = tagSize) :
    (tag ++ m.wire).length = m.signaturesStart := by
  rw [List.length_append, htag, length_wire, signaturesStart, tagSize]
  omega

/-- Between the tag and the signatures there are the fields. -/
theorem slice_signaturesStart (m : CrossChainMessage) {tag : Bytes} (htag : tag.length = tagSize)
    (after : Bytes) : (tag ++ m.wire ++ after).slice 8 (m.signaturesStart - 8) = m.wire := by
  have hlen : m.signaturesStart - 8 = m.wire.length := by
    rw [← m.length_append_wire htag, List.length_append, htag]
    exact Nat.add_sub_cancel_left 8 m.wire.length
  have hslice := Bytes.slice_append tag m.wire after
  rwa [htag, ← hlen] at hslice

/-- The bytes of a cross-chain record: the fields that are hashed, and the signatures. -/
theorem encode_crossChainLayout : (values : Kind.crossChainLayout.Values) →
    Kind.crossChainLayout.encode values =
      (ofValues values).wire ++ Shape.signatures.encode values.2.2.2.2.2.2.2.1
  | (_, _, _, _, _, _, _, _, ()) => by
      simp only [Layout.encode, ofValues, wire, Int.toNat_natCast, List.append_assoc,
        List.append_nil]
      rfl

/-- A number that fits into its field passes the check of the field. -/
theorem isOutside_natCast {width n : Nat} (h : n < 256 ^ width) :
    isOutside width (n : Int) = false := by
  have hlt : (n : Int) < 256 ^ width := by
    have hcast := Int.ofNat_lt.mpr h
    rwa [Int.natCast_pow] at hcast
  simp [isOutside, hlt]

/-- The message of a record is refused by the first part that is over its limit only. -/
theorem encode_ofValues : {values : Kind.crossChainLayout.Values} →
    Kind.crossChainLayout.Fits values →
      (ofValues values).encode = match (ofValues values).parts.find? LimitedPart.isOver with
        | none => .ok (ofValues values).wire
        | some p => .error p.refusal
  | (_, _, _, _, _, _, _, _, ()), ⟨htx, hsource, hdest, _⟩ =>
      encode_eq_of_fits (isOutside_natCast htx) (isOutside_natCast hsource)
        (isOutside_natCast hdest)

end CrossChainMessage

/-- The texts of a record stand for its message. -/
theorem message?_crossChainText : {values : Kind.crossChainLayout.Values} →
    (h : Kind.crossChainLayout.Fits values) →
      (crossChainText (Kind.crossChainLayout.render values h)).message? =
        some (CrossChainMessage.ofValues values)
  | (txId, source, dest, sender, recipient, onChain, offChain, _, ()), h => by
      simp only [CrossChainText.message?, crossChainText, Layout.render, Field.render,
        Integer.parse?_render, Address.parse?_render, Hex.decode?_encode]
      rfl

/-- A list of signatures is read where it starts. -/
theorem readSignatures_append {signatures : List (Bytes × Bytes)} {field : String}
    (h : Shape.signatures.Fits signatures) (before rest : Bytes) :
    (readSignatures (before ++ Shape.signatures.encode signatures ++ rest) before.length
      field).map Prod.fst = .ok signatures := by
  have hp : Shape.signatures.encode signatures <+:
      (before ++ Shape.signatures.encode signatures ++ rest).drop before.length := by
    rw [List.append_assoc, List.drop_left]
    exact List.prefix_append _ rest
  rw [(follows_readSignatures signatures _).mpr ⟨_, ⟨h, rfl⟩, hp, rfl⟩]
  rfl

namespace CrossChainMessage

/-- The digest of a message within its bounds can be logged. -/
theorem IsWithinBounds.exists_report? {m : CrossChainMessage} (h : m.IsWithinBounds)
    (digest : Bytes) : ∃ entry, m.report? digest = some entry := by
  have hwidth : 8 ≤ 16 := by decide
  have hid := Integer.natAbs_lt (Nat.le_refl 16) h.txId
  have hsource := Integer.natAbs_lt hwidth h.sourceChainId
  have hdest := Integer.natAbs_lt hwidth h.destChainId
  rw [report?, Integer.render?_of_lt hid, Integer.render?_of_lt hsource,
    Integer.render?_of_lt hdest]
  exact ⟨_, rfl⟩

/-- So a message has the digest of its byte string, if it has one. -/
theorem value_digest (m : CrossChainMessage) :
    m.digest.value = (m.encode.map Keccak256.digest).mapError .refused := by
  rw [digest]
  cases hencode : m.encode with
  | error e => exact value_hashed_of_refused e
  | ok encoded =>
    obtain ⟨entry, hentry⟩ := (encode_eq_ok_iff.mp hencode).1.exists_report? _
    exact value_hashed_of_reported hentry

end CrossChainMessage

/-- A record whose texts stand for a message has the digest of that message. -/
theorem Outcome.value_digest_decoded {r : Record} {m : CrossChainMessage}
    (h : r.crossChainText?.bind CrossChainText.message? = some m) :
    (Outcome.decoded r).digest.value = (m.encode.map Keccak256.digest).mapError .refused := by
  obtain ⟨texts, htexts, hm⟩ := Option.bind_eq_some_iff.mp h
  simp only [Outcome.digest, htexts, CrossChainText.digest, hm, Logged.map,
    CrossChainMessage.value_digest]
  cases m.encode <;> rfl

namespace Scope

variable {mode : TagMode} {raw : Bytes} {r : Record}

/-- A payload with a cross-chain record starts with the tag of its kind and the bytes of values,
which the record shows. -/
theorem exists_values_of_crossChain
    (h : (Scope.instruction.decode mode raw).value = .ok (.decoded r))
    (hkind : r.kind = .createTxPda ∨ r.kind = .processMessage) :
    ∃ values, ∃ hfits : Kind.crossChainLayout.Fits values,
      r.kind.tag mode ++ Kind.crossChainLayout.encode values <+: raw ∧
        r.crossChainText? = some (crossChainText (Kind.crossChainLayout.render values hfits)) := by
  obtain ⟨kind, -, body, values, hbody, hp, rfl⟩ := decode_eq_decoded_iff.mp h
  rcases hkind with hkind | hkind
  · obtain rfl : kind = .createTxPda := hkind
    obtain ⟨hfits, rfl⟩ := Layout.eq_encode_of_spells _ (by decide) hbody
    exact ⟨values, hfits, hp, rfl⟩
  · obtain rfl : kind = .processMessage := hkind
    obtain ⟨hfits, rfl⟩ := Layout.eq_encode_of_spells _ (by decide) hbody
    exact ⟨values, hfits, hp, rfl⟩

/-- A payload with a cross-chain record is a tag, the fields of a message, its signatures and any
further bytes, and the record stands for that message. -/
theorem exists_message_of_crossChain
    (h : (Scope.instruction.decode mode raw).value = .ok (.decoded r))
    (hkind : r.kind = .createTxPda ∨ r.kind = .processMessage) :
    ∃ (m : CrossChainMessage) (signatures : List (Bytes × Bytes)) (rest : Bytes),
      raw = r.kind.tag mode ++ m.wire ++ Shape.signatures.encode signatures ++ rest ∧
      Shape.signatures.Fits signatures ∧
      r.crossChainText?.bind CrossChainText.message? = some m ∧
      m.encode = match m.parts.find? LimitedPart.isOver with
        | none => .ok m.wire
        | some p => .error p.refusal := by
  obtain ⟨values, hfits, ⟨rest, hraw⟩, htexts⟩ := exists_values_of_crossChain h hkind
  rw [CrossChainMessage.encode_crossChainLayout, ← List.append_assoc] at hraw
  refine ⟨CrossChainMessage.ofValues values, _, rest, hraw.symm, hfits.2.2.2.2.2.2.2.1, ?_,
    CrossChainMessage.encode_ofValues hfits⟩
  rw [htexts, Option.bind_some, message?_crossChainText hfits]

/-- **The digest of a record is that of its payload.** What is hashed for a cross-chain record is
the stretch of its payload from the tag to the signatures, unless a part of the message is over its
limit; then the first such part is named. -/
theorem rehash_agrees_with_wire
    (h : (Scope.instruction.decode mode raw).value = .ok (.decoded r))
    (hkind : r.kind = .createTxPda ∨ r.kind = .processMessage) :
    ∃ (m : CrossChainMessage) (signatures : List (Bytes × Bytes)) (rest : Bytes),
      raw = r.kind.tag mode ++ m.wire ++ Shape.signatures.encode signatures ++ rest ∧
      (readSignatures raw m.signaturesStart "signatures").map Prod.fst = .ok signatures ∧
      r.crossChainText?.bind CrossChainText.message? = some m ∧
      match m.parts.find? LimitedPart.isOver with
      | none =>
        m.encode = .ok (raw.slice 8 (m.signaturesStart - 8)) ∧
          (Outcome.decoded r).digest.value =
            .ok (Keccak256.digest (raw.slice 8 (m.signaturesStart - 8)))
      | some p => ∃ e,
        m.encode = .error e ∧ (Outcome.decoded r).digest.value = .error (.refused e) ∧
          e.message = s!"{p.name} is {p.bytes.length} bytes, at most {p.limit} allowed" := by
  obtain ⟨m, signatures, rest, hraw, hsignatures, hm, hencode⟩ :=
    exists_message_of_crossChain h hkind
  have hdigest := Outcome.value_digest_decoded hm
  have htag := r.kind.length_tag mode
  have hslice : raw.slice 8 (m.signaturesStart - 8) = m.wire := by
    rw [hraw, List.append_assoc]
    exact m.slice_signaturesStart htag _
  refine ⟨m, signatures, rest, hraw, ?_, hm, ?_⟩
  · rw [hraw, ← m.length_append_wire htag]
    exact readSignatures_append hsignatures _ rest
  · rw [hslice]
    cases hover : m.parts.find? LimitedPart.isOver with
    | none =>
      rw [hover] at hencode
      exact ⟨hencode, by rw [hdigest, hencode]; rfl⟩
    | some p =>
      rw [hover] at hencode
      exact ⟨p.refusal, hencode, by rw [hdigest, hencode]; rfl, rfl⟩

/-- A message with the largest identifier, a foreign sender and a native recipient. -/
def crossChainSample : Kind.crossChainLayout.Values :=
  (2 ^ 128 - 1, 2, 1, List.replicate 20 0x74, List.replicate 32 0xab, [0x68, 0x69], [],
    [(List.replicate 64 0x11, List.replicate 32 0x22)], ())

theorem fits_crossChainSample : Kind.crossChainLayout.Fits crossChainSample := by
  decide

theorem rehash_agrees_with_wire_crossChainSample :
    (Scope.instruction.decode .anchor (Kind.processMessage.tag .anchor ++
        Kind.crossChainLayout.encode crossChainSample ++ [0xff])).value =
      .ok (.decoded (Record.ofValues .processMessage crossChainSample fits_crossChainSample)) ∧
    (Outcome.decoded
        (Record.ofValues .processMessage crossChainSample fits_crossChainSample)).digest.value =
      .ok (Keccak256.digest ((Kind.processMessage.tag .anchor ++
        Kind.crossChainLayout.encode crossChainSample ++ [0xff]).slice 8 102)) := by
  have hkind : Kind.processMessage ∈ Scope.instruction.kinds := by decide
  have hdecode :=
    decode_of_spells .anchor hkind (Layout.spells_encode _ fits_crossChainSample) [0xff]
  obtain ⟨m, -, -, -, -, hm, hdigest⟩ := rehash_agrees_with_wire hdecode (.inr rfl)
  have htexts : (Record.ofValues .processMessage crossChainSample _).crossChainText? =
      some (crossChainText (Kind.crossChainLayout.render crossChainSample fits_crossChainSample)) :=
    rfl
  rw [htexts, Option.bind_some, message?_crossChainText fits_crossChainSample] at hm
  obtain rfl : CrossChainMessage.ofValues crossChainSample = m := Option.some.inj hm
  exact ⟨hdecode, hdigest.2⟩

end Scope

end MessageGateway
