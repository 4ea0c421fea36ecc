import MessageGateway.Proofs.Hashing.Rehash
import MessageGateway.Proofs.Message.Agreement
import MessageGateway.Proofs.Message.Failure

/-!
# The two kinds of cross-chain messages

A cross-chain message is announced by one kind of message and carried out by another, and the two
kinds share their layout. What is read of a message depends on its length and on what lies behind
its tag only, whether it is granted or refused (`Layout.read_congr`). So one body behind the two
tags has twin outcomes (`Outcome.Twins`): two records that differ in their labels, or two failures
with one cause.

## Main definitions

* `MessageGateway.Bytes.AgreeFrom`.
* `MessageGateway.Record.Twins`, `MessageGateway.DecodeFailure.Twins`,
  `MessageGateway.Outcome.Twins`.

## Main results

* `MessageGateway.Span.walk_congr`, `MessageGateway.Layout.read_congr`.
* `MessageGateway.Scope.cross_chain_kinds_agree`.
-/

namespace MessageGateway

/-! ### Buffers that agree from an offset on -/

/-- Two buffers of one length are the same from an offset on. -/
structure Bytes.AgreeFrom (start : Nat) (buffer buffer' : Bytes) : Prop where
  length_eq : buffer.length = buffer'.length
  drop_eq : buffer.drop start = buffer'.drop start

namespace Bytes.AgreeFrom

variable {start offset : Nat} {buffer buffer' : Bytes}

/-- One byte string behind two others of one length. -/
theorem append {before before' : Bytes} (hlen : before.length = start)
    (hlen' : before'.length = start) (bs : Bytes) :
    AgreeFrom start (before ++ bs) (before' ++ bs) where
  length_eq := by rw [List.length_append, List.length_append, hlen, hlen']
  drop_eq := by rw [List.drop_left' hlen, List.drop_left' hlen']

theorem mono (h : AgreeFrom start buffer buffer') (hle : start ≤ offset) :
    AgreeFrom offset buffer buffer' where
  length_eq := h.length_eq
  drop_eq := by
    obtain ⟨k, rfl⟩ := Nat.exists_eq_add_of_le hle
    rw [← List.drop_drop, ← List.drop_drop, h.drop_eq]

theorem slice_eq (h : AgreeFrom start buffer buffer') (size : Nat) :
    buffer.slice start size = buffer'.slice start size :=
  congrArg (List.take size) h.drop_eq

/-- As much is available in both, at every offset. -/
theorem available_eq (h : AgreeFrom start buffer buffer') :
    available buffer = available buffer' := by
  funext offset
  rw [available, available, h.length_eq]

/-! ### Requests -/

theorem firstMisfit?_eq (h : AgreeFrom start buffer buffer') :
    Request.firstMisfit? buffer = Request.firstMisfit? buffer' := by
  have hfits (r : Request) : r.Fits buffer ↔ r.Fits buffer' := by
    rw [Request.Fits, Request.Fits, h.available_eq]
  funext requests
  simp only [Request.firstMisfit?, hfits]

theorem refusal_eq (h : AgreeFrom start buffer buffer') :
    Request.refusal buffer = Request.refusal buffer' := by
  funext r
  rw [Request.refusal, Request.refusal, h.available_eq]

end Bytes.AgreeFrom

namespace Span

variable {buffer buffer' : Bytes} {start : Nat}

/-- What is asked for a field depends on what lies at its offset only. -/
theorem requests_congr (h : Bytes.AgreeFrom start buffer buffer') (s : Span) :
    s.requests buffer start = s.requests buffer' start := by
  cases s with
  | fixed name size => rfl
  | counted name suffix unit => rw [requests, requests, h.slice_eq]

/-- So does what is asked for fields one behind the other. -/
theorem walk_congr : (spans : List Span) → {start : Nat} →
    Bytes.AgreeFrom start buffer buffer' → walk buffer spans start = walk buffer' spans start
  | [], _, _ => rfl
  | s :: spans, _, h => by
      rw [walk, walk, requests_congr h s, walk_congr spans (h.mono (Nat.le_add_right _ _))]

end Span

/-- What is read of a layout, or the refusal of it, depends on the length of the buffer and on what
lies from the offset on. -/
theorem Layout.read_congr {buffer buffer' : Bytes} {start : Nat} (l : Layout)
    (h : Bytes.AgreeFrom start buffer buffer') : l.read buffer start = l.read buffer' start := by
  have hrequests := Span.walk_congr l.spans h
  cases hfirst : Request.firstMisfit? buffer (Span.walk buffer l.spans start) with
  | none =>
    obtain ⟨values, hread⟩ := (l.answers_read start).exists_eq_ok hfirst
    obtain ⟨bs, hspells, hp, hnext⟩ := (l.follows_read start values _).mp hread
    rw [hread]
    rw [h.drop_eq] at hp
    exact ((l.follows_read start values _).mpr ⟨bs, hspells, hp, hnext⟩).symm
  | some r =>
    rw [(l.answers_read start).eq_error hfirst, h.refusal_eq]
    rw [h.firstMisfit?_eq, hrequests] at hfirst
    exact ((l.answers_read start).eq_error hfirst).symm

/-! ### Twins -/

/-- Two records of cross-chain messages that differ in their labels. -/
structure Record.Twins (r r' : Record) : Prop where
  /-- They show the same behind their labels, and nothing else under the name of the label. -/
  members_eq : ∃ fields, r.members = ("instruction", .text "create_tx_pda") :: fields ∧
    r'.members = ("instruction", .text "process_message") :: fields ∧
    "instruction" ∉ fields.map Prod.fst
  /-- They have one digest, or are refused one for the same reason. -/
  digest_eq : ∃ answer : Except HashInputError Bytes,
    (Outcome.decoded r).digest.value = answer.mapError .refused ∧
      (Outcome.decoded r').digest.value = answer.mapError .refused

/-- What the failure of a kind of instructions shows. -/
def DecodeFailure.membersOf (kind message tag : String) (body : Bytes) : List (String × Json) :=
  [("instruction", .text kind), ("namespace", .text "instruction"), ("kind", .text kind),
    ("error", .text message), ("discriminator", .text tag),
    ("raw_hex", .text (tag ++ Hex.encode body))]

/-- Two failures of cross-chain messages with the same words, which differ in their kind and in the
tag in front of the body. -/
def DecodeFailure.Twins (body : Bytes) (f f' : DecodeFailure) : Prop :=
  ∃ message tag tag' : String, tag.length = 16 ∧ tag'.length = 16 ∧
    f.members = membersOf "create_tx_pda" message tag body ∧
    f'.members = membersOf "process_message" message tag' body

/-- Two records or two failures of one body. -/
inductive Outcome.Twins (body : Bytes) : Outcome → Outcome → Prop
  | decoded {r r' : Record} (h : r.Twins r') : Twins body (.decoded r) (.decoded r')
  | failure {f f' : DecodeFailure} (h : f.Twins body f') : Twins body (.failure f) (.failure f')

/-- A record that shows the texts of values has the digest of their message. -/
theorem Outcome.value_digest_of_texts {r : Record} {values : Kind.crossChainLayout.Values}
    (h : Kind.crossChainLayout.Fits values)
    (htexts : r.crossChainText? = some (crossChainText (Kind.crossChainLayout.render values h))) :
    (Outcome.decoded r).digest.value =
      ((CrossChainMessage.ofValues values).encode.map Keccak256.digest).mapError .refused := by
  refine value_digest_decoded ?_
  rw [htexts, Option.bind_some, message?_crossChainText h]

/-- The records of one message that fits are twins. -/
theorem Record.twins_ofValues {values : Kind.crossChainLayout.Values}
    (h : Kind.crossChainLayout.Fits values) :
    (ofValues .createTxPda values h).Twins (ofValues .processMessage values h) where
  members_eq := by
    refine ⟨_, rfl, rfl, ?_⟩
    exact (List.nodup_cons.mp (ofValues .createTxPda values h).nodup_names).1
  digest_eq := ⟨_, Outcome.value_digest_of_texts h rfl, Outcome.value_digest_of_texts h rfl⟩

namespace Scope

variable {mode : TagMode} {body : Bytes} {kind : Kind}

/-- What becomes of a body that is read behind the tag of a kind of instructions. -/
theorem value_decode_of_read_eq_ok (hkind : kind ∈ Scope.instruction.kinds)
    {values : kind.layout.Values} {next : Int}
    (h : kind.layout.read (kind.tag mode ++ body) tagSize = .ok (values, next)) :
    (Scope.instruction.decode mode (kind.tag mode ++ body)).value =
      .ok (.decoded (Record.ofValues kind values (kind.layout.fits_of_read h))) := by
  rw [decode_of_tag hkind (List.prefix_append _ _), Kind.decode_of_read_eq_ok h]
  rfl

/-- What becomes of one that cannot be read. -/
theorem value_decode_of_read_eq_error (hkind : kind ∈ Scope.instruction.kinds) {e : OutOfBounds}
    (h : kind.layout.read (kind.tag mode ++ body) tagSize = .error e) :
    (Scope.instruction.decode mode (kind.tag mode ++ body)).value =
      .ok (.failure ⟨"instruction", kind.name, .outOfBounds e, kind.tagText mode,
        kind.tagText mode ++ Hex.encode body⟩) := by
  have htag : kind.tag mode <+: kind.tag mode ++ body := List.prefix_append _ _
  rw [decode_of_tag hkind htag, tagOf_eq htag, Hex.encode_append, Kind.decode_of_read_eq_error h]
  rfl

/-- **Cross-chain messages do not drift apart.** One body behind the tags of the two kinds of
cross-chain messages is decoded to two records that differ in their labels and have one digest, or
fails for both with the same words. -/
theorem cross_chain_kinds_agree (mode : TagMode) (body : Bytes) :
    ∃ x y, (Scope.instruction.decode mode (Kind.createTxPda.tag mode ++ body)).value = .ok x ∧
      (Scope.instruction.decode mode (Kind.processMessage.tag mode ++ body)).value = .ok y ∧
      Outcome.Twins body x y := by
  have hagree : Bytes.AgreeFrom tagSize (Kind.createTxPda.tag mode ++ body)
      (Kind.processMessage.tag mode ++ body) :=
    .append (Kind.length_tag mode _) (Kind.length_tag mode _) body
  have hread := Kind.crossChainLayout.read_congr hagree
  have hcreate : Kind.createTxPda ∈ Scope.instruction.kinds := by decide
  have hprocess : Kind.processMessage ∈ Scope.instruction.kinds := by decide
  cases h : Kind.crossChainLayout.read (Kind.createTxPda.tag mode ++ body) tagSize with
  | ok result =>
    exact ⟨_, _, value_decode_of_read_eq_ok hcreate h,
      value_decode_of_read_eq_ok hprocess (hread.symm.trans h), .decoded (Record.twins_ofValues _)⟩
  | error e =>
    exact ⟨_, _, value_decode_of_read_eq_error hcreate h,
      value_decode_of_read_eq_error hprocess (hread.symm.trans h),
      .failure ⟨e.message, _, _, Kind.length_tagText mode _, Kind.length_tagText mode _, rfl, rfl⟩⟩

end Scope

end MessageGateway
