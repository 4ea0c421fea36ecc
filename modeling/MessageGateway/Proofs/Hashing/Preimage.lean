import MessageGateway.Hashing.CrossChainMessage
import MessageGateway.Hashing.SignerMessage
import MessageGateway.Wire.Shape

/-!
# The byte string that is hashed

The byte string of a cross-chain message is made behind seven checks: that the identifier and the
numbers of the chains lie in the ranges of their fields, and that none of four parts is over its
limit. The first check that fails refuses the message (`refuseFirst`), and a message that passes
all of them is laid out field by field (`CrossChainMessage.wire`). The byte string that signers
sign is made in the same way behind four checks (`SignerMessage.wire`).

## Main definitions

* `MessageGateway.refuseFirst`.
* `MessageGateway.LimitedPart`, `MessageGateway.CrossChainMessage.parts`.
* `MessageGateway.CrossChainMessage.checks`, `MessageGateway.CrossChainMessage.wire`.
* `MessageGateway.SignerMessage.checks`, `MessageGateway.SignerMessage.wire`.

## Main results

* `MessageGateway.refuseFirst_eq_ok_iff`, `MessageGateway.refuseFirst_eq_error_iff`.
* `MessageGateway.CrossChainMessage.encode_eq`, `MessageGateway.SignerMessage.encode_eq`.
-/

namespace MessageGateway

/-! ### Rows of checks -/

section Checks

variable {ε α β : Type}

/-- The outcome behind a row of checks, each with what it says when it fails: the first that fails
refuses. -/
def refuseFirst : List (Bool × ε) → α → Except ε α
  | [], a => .ok a
  | (fails, e) :: checks, a => if fails then .error e else refuseFirst checks a

/-- A step that is refused by one check, in front of the others. -/
theorem bind_eq_refuseFirst {x : Except ε α} {f : α → Except ε β} {fails : Bool} {e : ε} {a : α}
    {checks : List (Bool × ε)} {b : β} (hx : x = if fails then .error e else .ok a)
    (hf : f a = refuseFirst checks b) : x >>= f = refuseFirst ((fails, e) :: checks) b := by
  cases fails with
  | true =>
    rw [hx]
    rfl
  | false =>
    rw [hx]
    exact hf

/-- The first check that fails decides. -/
theorem refuseFirst_eq (a : α) : (checks : List (Bool × ε)) →
    refuseFirst checks a =
      match checks.find? Prod.fst with
      | none => .ok a
      | some check => .error check.2
  | [] => rfl
  | (fails, _) :: checks => by
      rw [refuseFirst, List.find?_cons]
      cases fails with
      | true => rfl
      | false => exact refuseFirst_eq a checks

theorem refuseFirst_eq_ok_iff {checks : List (Bool × ε)} {a b : α} :
    refuseFirst checks a = .ok b ↔ (∀ check ∈ checks, check.1 = false) ∧ b = a := by
  have hpass : (∀ check ∈ checks, check.1 = false) ↔ checks.find? Prod.fst = none := by
    simp only [List.find?_eq_none, Bool.not_eq_true]
  rw [hpass, refuseFirst_eq]
  cases checks.find? Prod.fst <;> simp [eq_comm]

theorem refuseFirst_eq_error_iff {checks : List (Bool × ε)} {a : α} {e : ε} :
    refuseFirst checks a = .error e ↔ checks.find? Prod.fst = some (true, e) := by
  rw [refuseFirst_eq]
  cases h : checks.find? Prod.fst with
  | none => simp
  | some check =>
    have hfails : check.1 = true := List.find?_some h
    simp [Prod.ext_iff, hfails]

end Checks

/-! ### Parts with a limit -/

/-- A part of a message that has a limit. -/
structure LimitedPart where
  name : String
  bytes : Bytes
  limit : Nat

namespace LimitedPart

/-- Whether a part is over its limit. -/
def isOver (p : LimitedPart) : Bool :=
  decide (p.limit < p.bytes.length)

/-- What a part that is over its limit is refused with. -/
def refusal (p : LimitedPart) : HashInputError :=
  .overLimit p.name p.bytes.length p.limit

theorem isOver_eq_false_iff {p : LimitedPart} : p.isOver = false ↔ p.bytes.length ≤ p.limit := by
  rw [isOver, decide_eq_false_iff_not, Nat.not_lt]

/-- Of a row of parts, the first that is over its limit refuses. -/
theorem refuseFirst_map {α : Type} (a : α) (ps : List LimitedPart) :
    refuseFirst (ps.map fun p => (p.isOver, p.refusal)) a =
      match ps.find? isOver with
      | none => .ok a
      | some p => .error p.refusal := by
  have hover : (Prod.fst ∘ fun p : LimitedPart => (p.isOver, p.refusal)) = isOver := rfl
  rw [refuseFirst_eq, List.find?_map, hover]
  cases ps.find? isOver <;> rfl

end LimitedPart

/-! ### Cross-chain messages -/

namespace CrossChainMessage

/-- Whether a number does not fit into `width` bytes. -/
def isOutside (width : Nat) (n : Int) : Bool :=
  !decide (0 ≤ n ∧ n < 256 ^ width)

theorem isOutside_eq_false_iff {width : Nat} {n : Int} :
    isOutside width n = false ↔ 0 ≤ n ∧ n < 256 ^ width := by
  rw [isOutside, Bool.not_eq_false', decide_eq_true_eq]

/-- The parts of a message that have a limit, in order. -/
def parts (m : CrossChainMessage) : List LimitedPart :=
  [⟨"sender", m.sender, 64⟩, ⟨"recipient", m.recipient, 64⟩, ⟨"on_chain_data", m.onChainData, 1024⟩,
    ⟨"off_chain_data", m.offChainData, 1024⟩]

/-- The checks of a message, in order. -/
def checks (m : CrossChainMessage) : List (Bool × HashInputError) :=
  [(isOutside 16 m.txId, .idOutOfRange),
    (isOutside 8 m.sourceChainId, .chainOutOfRange "source_chain_id"),
    (isOutside 8 m.destChainId, .chainOutOfRange "dest_chain_id")] ++
      m.parts.map fun p => (p.isOver, p.refusal)

/-- The fields of a message, one behind the other. -/
def wire (m : CrossChainMessage) : Bytes :=
  Bytes.ofNatLE 16 m.txId.toNat ++ Bytes.ofNatLE 8 m.sourceChainId.toNat ++
    Bytes.ofNatLE 8 m.destChainId.toNat ++ Shape.blob.encode m.sender ++
    Shape.blob.encode m.recipient ++ Shape.blob.encode m.onChainData ++
    Shape.blob.encode m.offChainData

theorem length_wire (m : CrossChainMessage) :
    m.wire.length = 16 + 8 + 8 + (4 + m.sender.length) + (4 + m.recipient.length) +
      (4 + m.onChainData.length) + (4 + m.offChainData.length) := by
  simp only [wire, Shape.encode, List.length_append, Bytes.length_ofNatLE]

theorem bounded_eq (width : Nat) (e : HashInputError) (n : Int) :
    bounded width e n =
      if isOutside width n then .error e else .ok (Bytes.ofNatLE width n.toNat) := by
  by_cases h : 0 ≤ n ∧ n < 256 ^ width <;> simp [bounded, isOutside, h]

theorem limited_eq (name : String) (limit : Nat) (bs : Bytes) :
    limited name limit bs = if LimitedPart.isOver ⟨name, bs, limit⟩ then
      .error (.overLimit name bs.length limit) else .ok (Shape.blob.encode bs) := by
  by_cases h : limit < bs.length <;> simp [limited, LimitedPart.isOver, h, Shape.encode]

/-- The byte string of a message is its fields, unless a check refuses it. -/
theorem encode_eq (m : CrossChainMessage) : m.encode = refuseFirst m.checks m.wire := by
  refine bind_eq_refuseFirst (bounded_eq 16 _ _) ?_
  refine bind_eq_refuseFirst (bounded_eq 8 _ _) ?_
  refine bind_eq_refuseFirst (bounded_eq 8 _ _) ?_
  refine bind_eq_refuseFirst (limited_eq _ _ _) ?_
  refine bind_eq_refuseFirst (limited_eq _ _ _) ?_
  refine bind_eq_refuseFirst (limited_eq _ _ _) ?_
  refine bind_eq_refuseFirst (limited_eq _ _ _) ?_
  rfl

/-- A message whose numbers fit is refused by the first part that is over its limit only. -/
theorem encode_eq_of_fits {m : CrossChainMessage} (htx : isOutside 16 m.txId = false)
    (hsource : isOutside 8 m.sourceChainId = false) (hdest : isOutside 8 m.destChainId = false) :
    m.encode = match m.parts.find? LimitedPart.isOver with
      | none => .ok m.wire
      | some p => .error p.refusal := by
  rw [encode_eq, ← LimitedPart.refuseFirst_map]
  simp only [checks, htx, hsource, hdest, List.cons_append, List.nil_append, refuseFirst,
    Bool.false_eq_true, if_false]

end CrossChainMessage

/-! ### Messages for signers -/

namespace SignerMessage

/-- The checks of a message, in order. -/
def checks (m : SignerMessage) : List (Bool × HashInputError) :=
  [(decide (m.txId < 0), .negativeId),
    (decide (255 < m.sender.length), .overCount "sender" m.sender.length 255),
    (decide (255 < m.recipient.length), .overCount "recipient" m.recipient.length 255),
    (decide (65535 < m.data.length), .overCount "data" m.data.length 65535)]

/-- The fields of a message, one behind the other. -/
def wire (m : SignerMessage) : Bytes :=
  Bytes.ofNatLE 8 m.txId.toNat ++ m.sourceChain ++ m.destChain ++
    (Bytes.ofNatLE 1 m.sender.length ++ m.sender) ++
    (Bytes.ofNatLE 1 m.recipient.length ++ m.recipient) ++
    (Bytes.ofNatLE 2 m.data.length ++ m.data)

theorem counted_eq {width limit : Nat} (hlimit : limit = 256 ^ width - 1) (part : String)
    (bs : Bytes) : counted width part bs =
      if decide (limit < bs.length) then .error (.overCount part bs.length limit)
      else .ok (Bytes.ofNatLE width bs.length ++ bs) := by
  subst hlimit
  simp only [counted, decide_eq_true_eq]

/-- The byte string of a message is its fields, unless a check refuses it. -/
theorem encode_eq (m : SignerMessage) : m.encode = refuseFirst m.checks m.wire := by
  rw [encode, checks, refuseFirst]
  simp only [decide_eq_true_eq]
  refine ite_congr rfl (fun _ => rfl) fun _ => ?_
  refine bind_eq_refuseFirst (counted_eq (by decide) _ _) ?_
  refine bind_eq_refuseFirst (counted_eq (by decide) _ _) ?_
  refine bind_eq_refuseFirst (counted_eq (by decide) _ _) ?_
  rfl

end SignerMessage

end MessageGateway
