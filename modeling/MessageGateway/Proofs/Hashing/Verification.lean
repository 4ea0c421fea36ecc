import MessageGateway.Proofs.Hashing.Unambiguous

/-!
# What verification accepts

Verification asks three things in turn: whether the expected digest is usable, whether the message
has a digest, and whether that is the expected one. An unusable digest is turned down before the
message is looked at; a message without a byte string is refused, and only with a usable digest; and
what is accepted is the digest of the message alone (`SignerMessage.verify_exact`).

A message has the digest of its byte string, if that digest can be logged. The identifier is logged
in full, so from the least number with too many digits on there is no digest
(`SignerMessage.value_digest_eq_ok_iff`), and verification ends without an answer.

A digest that is accepted for two messages is the digest of both of their byte strings. Byte strings
of messages with labels of agreed sizes are unambiguous, so unless the messages agree there are two
byte strings with one digest, which the messages exhibit.

## Main definitions

* `MessageGateway.IsUsable`.
* `MessageGateway.SignerMessage.Agrees`, `MessageGateway.SignerMessage.Collides`.

## Main results

* `MessageGateway.SignerMessage.value_digest_eq_ok_iff`.
* `MessageGateway.SignerMessage.agrees_or_collides`.
* `MessageGateway.SignerMessage.verify_exact`.
-/

namespace MessageGateway

/-- A digest of 32 bytes that are not all zero. -/
def IsUsable (digest : Bytes) : Prop :=
  digest.length = 32 ∧ ∃ b ∈ digest, b ≠ 0

theorem isUsableDigest_iff {digest : Bytes} : isUsableDigest digest = true ↔ IsUsable digest := by
  simp only [isUsableDigest, Bool.and_eq_true, beq_iff_eq, List.any_eq_true, bne_iff_ne]
  rfl

namespace SignerMessage

variable {m m' : SignerMessage} {expected encoded : Bytes} {e : HashInputError}

/-! ### Digests -/

/-- A message without a byte string has no digest, for the same reason. -/
theorem value_digest_of_refused (h : m.encode = .error e) :
    m.digest.value = .error (.refused e) := by
  rw [digest, h, value_hashed_of_refused]

/-- The digest of a message whose identifier can be written is that of its byte string. -/
theorem value_digest_of_writable (h : m.encode = .ok encoded)
    (hid : m.txId.natAbs < 10 ^ Integer.maxDigits) :
    m.digest.value = .ok (Keccak256.digest encoded) := by
  rw [digest, h, value_hashed_of_reported]
  rw [report?, Integer.render?_of_lt hid, Option.map_some]

/-- A message whose identifier cannot be written has no digest, whatever its byte string is. -/
theorem value_digest_of_unwritable (h : m.encode = .ok encoded)
    (hid : 10 ^ Integer.maxDigits ≤ m.txId.natAbs) : m.digest.value = .error .unwritable := by
  rw [digest, h, value_hashed_of_unreported]
  rw [report?, Integer.render?_of_le hid, Option.map_none]

/-- The digest of a message is that of its byte string, as long as the identifier can be written. -/
theorem value_digest_eq_ok_iff : m.digest.value = .ok expected ↔
    ∃ encoded, m.encode = .ok encoded ∧ m.txId.natAbs < 10 ^ Integer.maxDigits ∧
      Keccak256.digest encoded = expected := by
  cases hencode : m.encode with
  | error e => simp [value_digest_of_refused hencode]
  | ok encoded =>
    rcases Nat.lt_or_ge m.txId.natAbs (10 ^ Integer.maxDigits) with hid | hid
    · simp [value_digest_of_writable hencode hid, hid]
    · simp [value_digest_of_unwritable hencode hid, Nat.not_lt_of_le hid]

theorem value_digest_eq_refused_iff :
    m.digest.value = .error (.refused e) ↔ m.encode = .error e := by
  cases hencode : m.encode with
  | error e' => simp [value_digest_of_refused hencode]
  | ok encoded =>
    rcases Nat.lt_or_ge m.txId.natAbs (10 ^ Integer.maxDigits) with hid | hid
    · simp [value_digest_of_writable hencode hid]
    · simp [value_digest_of_unwritable hencode hid]

theorem value_digest_eq_unwritable_iff : m.digest.value = .error .unwritable ↔
    (∃ encoded, m.encode = .ok encoded) ∧ 10 ^ Integer.maxDigits ≤ m.txId.natAbs := by
  cases hencode : m.encode with
  | error e => simp [value_digest_of_refused hencode]
  | ok encoded =>
    rcases Nat.lt_or_ge m.txId.natAbs (10 ^ Integer.maxDigits) with hid | hid
    · simp [value_digest_of_writable hencode hid, Nat.not_le_of_lt hid]
    · simp [value_digest_of_unwritable hencode hid, hid]

/-- An identifier that has a byte string is not negative, so it has no sign to be written. -/
theorem natAbs_txId_lt_iff (h : m.encode = .ok encoded) :
    m.txId.natAbs < 10 ^ Integer.maxDigits ↔ m.txId < 10 ^ Integer.maxDigits := by
  have hcast : ((10 ^ Integer.maxDigits : Nat) : Int) = 10 ^ Integer.maxDigits :=
    Int.natCast_pow 10 Integer.maxDigits
  have hnonneg : 0 ≤ m.txId := (encode_eq_ok_iff.mp h).1.txId
  omega

/-! ### The order of the checks -/

/-- An unusable digest is turned down, whatever the message is, and nothing is logged. -/
theorem verify_of_not_isUsable (m : SignerMessage) (h : ¬ IsUsable expected) :
    m.verify expected = .silent (.ok false) :=
  if_neg (mt isUsableDigest_iff.mp h)

/-- A usable digest is compared with that of the message. -/
theorem value_verify_of_isUsable (h : IsUsable expected) :
    (m.verify expected).value = m.digest.value.map (· == expected) := by
  rw [verify, if_pos (isUsableDigest_iff.mpr h)]
  rfl

theorem value_verify_eq_true_iff : (m.verify expected).value = .ok true ↔
    IsUsable expected ∧ m.digest.value = .ok expected := by
  by_cases h : IsUsable expected
  · rw [value_verify_of_isUsable h, and_iff_right h]
    cases m.digest.value <;> simp [Except.map]
  · rw [verify_of_not_isUsable m h]
    exact ⟨nofun, fun hboth => absurd hboth.1 h⟩

/-- Verification ends without an answer just where a message that is looked at has no digest. -/
theorem value_verify_eq_error_iff {e : DigestError} : (m.verify expected).value = .error e ↔
    IsUsable expected ∧ m.digest.value = .error e := by
  by_cases h : IsUsable expected
  · rw [value_verify_of_isUsable h, and_iff_right h]
    cases m.digest.value <;> simp [Except.map]
  · rw [verify_of_not_isUsable m h]
    exact ⟨nofun, fun hboth => absurd hboth.1 h⟩

/-! ### Two messages for one digest -/

/-- Two messages agree in all fields, in their identifiers up to multiples of 2 ^ 64. -/
structure Agrees (m m' : SignerMessage) : Prop where
  txId : m.txId % 2 ^ 64 = m'.txId % 2 ^ 64
  sourceChain : m.sourceChain = m'.sourceChain
  destChain : m.destChain = m'.destChain
  sender : m.sender = m'.sender
  recipient : m.recipient = m'.recipient
  data : m.data = m'.data

/-- The byte strings of two messages are distinct and have the same digest. -/
def Collides (m m' : SignerMessage) : Prop :=
  ∃ encoded encoded', m.encode = .ok encoded ∧ m'.encode = .ok encoded' ∧ encoded ≠ encoded' ∧
    Keccak256.digest encoded = Keccak256.digest encoded'

/-- Messages with one digest, and with labels of the same sizes, agree or show a collision. -/
theorem agrees_or_collides (hsource : m.sourceChain.length = m'.sourceChain.length)
    (hdest : m.destChain.length = m'.destChain.length) (h : m.digest.value = .ok expected)
    (h' : m'.digest.value = .ok expected) : m.Agrees m' ∨ m.Collides m' := by
  obtain ⟨encoded, hencoded, -, hdigest⟩ := value_digest_eq_ok_iff.mp h
  obtain ⟨encoded', hencoded', -, hdigest'⟩ := value_digest_eq_ok_iff.mp h'
  by_cases heq : encoded = encoded'
  · obtain ⟨hcountable, rfl⟩ := encode_eq_ok_iff.mp hencoded
    obtain ⟨hcountable', rfl⟩ := encode_eq_ok_iff.mp hencoded'
    obtain ⟨htx, hsource, hdest, hsender, hrecipient, hdata⟩ :=
      (wire_eq_wire_iff hcountable hcountable' hsource hdest).mp heq
    exact .inl ⟨htx, hsource, hdest, hsender, hrecipient, hdata⟩
  · exact .inr ⟨encoded, encoded', hencoded, hencoded', heq, hdigest.trans hdigest'.symm⟩

/-! ### Verification -/

/-- **Verification accepts exactly the digest of the message.** It accepts a digest exactly when
that is usable, the message has a byte string, and the digest is that of the message; it turns an
unusable digest down for every message; and it refuses a message exactly when the digest is usable
and the message has no byte string. The only other way to end without an answer is a usable digest
for a message whose identifier has too many digits to be written; all other messages with a byte
string have its digest. A digest that is accepted for two messages with labels of the same sizes
shows that they agree or that their byte strings collide. -/
theorem verify_exact :
    (∀ (m : SignerMessage) (expected : Bytes),
      ((m.verify expected).value = .ok true ↔
        IsUsable expected ∧ (∃ encoded, m.encode = .ok encoded) ∧ m.digest.value = .ok expected) ∧
      (¬ IsUsable expected → m.verify expected = .silent (.ok false)) ∧
      ((∃ e, (m.verify expected).value = .error (.refused e)) ↔
        IsUsable expected ∧ ¬ ∃ encoded, m.encode = .ok encoded) ∧
      ((m.verify expected).value = .error .unwritable ↔
        IsUsable expected ∧ (∃ encoded, m.encode = .ok encoded) ∧
          10 ^ Integer.maxDigits ≤ m.txId) ∧
      (m.digest.value = .ok expected ↔
        ∃ encoded, m.encode = .ok encoded ∧ m.txId < 10 ^ Integer.maxDigits ∧
          Keccak256.digest encoded = expected)) ∧
    ∀ (m m' : SignerMessage) (expected : Bytes),
      m.sourceChain.length = m'.sourceChain.length → m.destChain.length = m'.destChain.length →
      (m.verify expected).value = .ok true → (m'.verify expected).value = .ok true →
      m.Agrees m' ∨ m.Collides m' := by
  refine ⟨fun m expected => ⟨?_, verify_of_not_isUsable m, ?_, ?_, ?_⟩,
    fun m m' expected hsource hdest h h' => ?_⟩
  · rw [value_verify_eq_true_iff]
    refine and_congr_right fun _ => (and_iff_right_of_imp fun hdigest => ?_).symm
    obtain ⟨encoded, hencoded, -, -⟩ := value_digest_eq_ok_iff.mp hdigest
    exact ⟨encoded, hencoded⟩
  · simp only [value_verify_eq_error_iff, value_digest_eq_refused_iff, exists_and_left]
    refine and_congr_right fun _ => ?_
    cases m.encode <;> simp
  · rw [value_verify_eq_error_iff, value_digest_eq_unwritable_iff]
    refine and_congr_right fun _ => and_congr_right fun ⟨encoded, hencoded⟩ => ?_
    rw [← Nat.not_lt, ← Int.not_lt, natAbs_txId_lt_iff hencoded]
  · rw [value_digest_eq_ok_iff]
    refine exists_congr fun encoded => and_congr_right fun hencoded => ?_
    rw [natAbs_txId_lt_iff hencoded]
  · exact agrees_or_collides hsource hdest (value_verify_eq_true_iff.mp h).2
      (value_verify_eq_true_iff.mp h').2

/-- A message, the same with a higher identifier, and their digest; one that is out of range, and one
whose identifier is the least that cannot be written. -/
theorem verify_exact_highIdentifier :
    let m : SignerMessage := ⟨7, [0x65, 0x74, 0x68, 0], [0x62, 0, 0, 0], [1], [2, 3], [4]⟩
    let m' : SignerMessage := ⟨7 + 2 ^ 64, m.sourceChain, m.destChain, [1], [2, 3], [4]⟩
    let negative : SignerMessage := ⟨-1, [], [], [], [], []⟩
    let endless : SignerMessage := ⟨10 ^ Integer.maxDigits, [], [], [], [], []⟩
    let expected : Bytes :=
      [0x0a, 0xf3, 0x45, 0xff, 0x2b, 0x81, 0x75, 0x08, 0xc8, 0x7b, 0x68, 0x04, 0x12, 0x4f, 0x56,
        0xb6, 0x59, 0xf2, 0x81, 0xfe, 0x8c, 0xd9, 0xc5, 0x52, 0x8e, 0x99, 0x4b, 0x8c, 0x7c, 0x94,
        0x9f, 0xb8]
    (m.verify expected).value = .ok true ∧ (m'.verify expected).value = .ok true ∧
      (m.Agrees m' ∨ m.Collides m') ∧ negative.verify (Bytes.zeros 32) = .silent (.ok false) ∧
      (∃ e, (negative.verify expected).value = .error (.refused e)) ∧
      (endless.verify expected).value = .error .unwritable := by
  intro m m' negative endless expected
  obtain ⟨hone, htwo⟩ := verify_exact
  have husable : IsUsable expected := ⟨rfl, 0x0a, by decide, by decide⟩
  have hzeros : ¬ IsUsable (Bytes.zeros 32) := fun h => absurd h.2 (by decide)
  have hdigest : m.digest.value = .ok expected := by decide +kernel
  have hdigest' : m'.digest.value = .ok expected := by decide +kernel
  have h := (hone m expected).1.mpr ⟨husable, ⟨m.wire, rfl⟩, hdigest⟩
  have h' := (hone m' expected).1.mpr ⟨husable, ⟨m'.wire, rfl⟩, hdigest'⟩
  have hcountable : endless.IsCountable :=
    ⟨Int.pow_nonneg (by decide), by decide, by decide, by decide⟩
  exact ⟨h, h', htwo m m' expected rfl rfl h h', (hone negative _).2.1 hzeros,
    (hone negative expected).2.2.1.mpr ⟨husable, nofun⟩,
    (hone endless expected).2.2.2.1.mpr
      ⟨husable, ⟨_, encode_eq_ok_iff.mpr ⟨hcountable, rfl⟩⟩, Int.le_refl _⟩⟩

end SignerMessage

end MessageGateway
