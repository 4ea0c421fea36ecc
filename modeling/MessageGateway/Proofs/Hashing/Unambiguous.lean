import MessageGateway.Proofs.Bytes.Parts
import MessageGateway.Proofs.Hashing.ChainLabel
import MessageGateway.Proofs.Hashing.Preimage

/-!
# One message for one byte string

What is signed is the digest of a byte string, so a byte string must belong to one message only.

The byte string of a cross-chain message tells where each of its fields ends: the numbers have
fixed widths and the parts lie behind their counts. So no byte string of one message is even the
start of that of another (`CrossChainMessage.encodings_prefix_free`).

In the byte string that signers sign, the chain labels have no count, and the identifier is cut to
eight bytes. Among messages whose labels have agreed sizes it is unambiguous up to the bytes that
are cut (`SignerMessage.encodings_unambiguous`). Labels of an agreed size are told apart up to the
zeros at their ends.

## Main definitions

* `MessageGateway.CrossChainMessage.IsWithinBounds`, `MessageGateway.SignerMessage.IsCountable`.

## Main results

* `MessageGateway.CrossChainMessage.encodings_prefix_free`.
* `MessageGateway.SignerMessage.encodings_unambiguous`.
-/

namespace MessageGateway

/-! ### The message that the gateway checks -/

namespace CrossChainMessage

/-- The numbers of a message fit into their fields, and no part is over its limit. -/
structure IsWithinBounds (m : CrossChainMessage) : Prop where
  txId : 0 ≤ m.txId ∧ m.txId < 2 ^ 128
  sourceChainId : 0 ≤ m.sourceChainId ∧ m.sourceChainId < 2 ^ 64
  destChainId : 0 ≤ m.destChainId ∧ m.destChainId < 2 ^ 64
  sender : m.sender.length ≤ 64
  recipient : m.recipient.length ≤ 64
  onChainData : m.onChainData.length ≤ 1024
  offChainData : m.offChainData.length ≤ 1024

variable {m m' : CrossChainMessage}

/-- A message is within its bounds when it passes all checks. -/
theorem isWithinBounds_iff : m.IsWithinBounds ↔ ∀ check ∈ m.checks, check.1 = false := by
  simp only [checks, parts, List.map_cons, List.map_nil, List.cons_append, List.nil_append,
    List.forall_mem_cons, isOutside_eq_false_iff, LimitedPart.isOver_eq_false_iff]
  constructor
  · rintro ⟨htx, hsource, hdest, hsender, hrecipient, honChain, hoffChain⟩
    exact ⟨htx, hsource, hdest, hsender, hrecipient, honChain, hoffChain, by simp⟩
  · rintro ⟨htx, hsource, hdest, hsender, hrecipient, honChain, hoffChain, -⟩
    exact ⟨htx, hsource, hdest, hsender, hrecipient, honChain, hoffChain⟩

/-- The messages with a byte string are those within their bounds, and it is their fields. -/
theorem encode_eq_ok_iff {bs : Bytes} : m.encode = .ok bs ↔ m.IsWithinBounds ∧ bs = m.wire := by
  rw [encode_eq, refuseFirst_eq_ok_iff, isWithinBounds_iff]

/-- A number that fits into its field can be told from what follows it. -/
theorem number_prefix {width : Nat} {n k : Int} {r s : Bytes} (hn : 0 ≤ n ∧ n < 256 ^ width)
    (hk : 0 ≤ k ∧ k < 256 ^ width)
    (hp : Bytes.ofNatLE width n.toNat ++ r <+: Bytes.ofNatLE width k.toNat ++ s) :
    n = k ∧ r <+: s := by
  have hcast : ((256 ^ width : Nat) : Int) = 256 ^ width := Int.natCast_pow 256 width
  obtain ⟨hnat, hrest⟩ := (Bytes.ofNatLE_append_prefix_iff (by omega) (by omega)).mp hp
  exact ⟨by omega, hrest⟩

/-- A part within its limit can be told from what follows it. -/
theorem part_prefix {limit : Nat} {a b r s : Bytes} (hlimit : limit < 256 ^ 4)
    (ha : a.length ≤ limit) (hb : b.length ≤ limit)
    (hp : Shape.blob.encode a ++ r <+: Shape.blob.encode b ++ s) : a = b ∧ r <+: s := by
  rw [Shape.encode, Shape.encode, List.append_assoc, List.append_assoc] at hp
  exact (Bytes.counted_append_prefix_iff (Nat.lt_of_le_of_lt ha hlimit)
    (Nat.lt_of_le_of_lt hb hlimit)).mp hp

/-- Where the fields of one message are the start of those of another, the messages are the same. -/
theorem eq_of_wire_prefix (h : m.IsWithinBounds) (h' : m'.IsWithinBounds)
    (hp : m.wire <+: m'.wire) : m = m' := by
  rw [← List.append_nil m.wire, ← List.append_nil m'.wire] at hp
  simp only [wire, List.append_assoc] at hp
  -- Field by field, from the first on: the two fields agree, and the rest is a start of the rest.
  obtain ⟨htx, hp⟩ := number_prefix h.txId h'.txId hp
  obtain ⟨hsource, hp⟩ := number_prefix h.sourceChainId h'.sourceChainId hp
  obtain ⟨hdest, hp⟩ := number_prefix h.destChainId h'.destChainId hp
  obtain ⟨hsender, hp⟩ := part_prefix (by decide) h.sender h'.sender hp
  obtain ⟨hrecipient, hp⟩ := part_prefix (by decide) h.recipient h'.recipient hp
  obtain ⟨honChain, hp⟩ := part_prefix (by decide) h.onChainData h'.onChainData hp
  obtain ⟨hoffChain, -⟩ := part_prefix (by decide) h.offChainData h'.offChainData hp
  cases m
  cases m'
  simp only [mk.injEq]
  exact ⟨htx, hsource, hdest, hsender, hrecipient, honChain, hoffChain⟩

/-- **The byte string of a cross-chain message is unambiguous.** Just the messages within their
bounds have one, any other is refused by the first check that fails, and no byte string of one
message is the start of that of another. -/
theorem encodings_prefix_free :
    (∀ m : CrossChainMessage, (∃ bs, m.encode = .ok bs) ↔ m.IsWithinBounds) ∧
      (∀ (m : CrossChainMessage) (e : HashInputError),
        m.encode = .error e ↔ m.checks.find? Prod.fst = some (true, e)) ∧
      ∀ (m m' : CrossChainMessage) (bs bs' : Bytes), m.encode = .ok bs → m'.encode = .ok bs' →
        (bs <+: bs' ↔ m = m') := by
  refine ⟨fun m => ?_, fun m e => ?_, fun m m' bs bs' hbs hbs' => ?_⟩
  · simp only [encode_eq_ok_iff, exists_and_left, exists_eq, and_true]
  · rw [encode_eq, refuseFirst_eq_error_iff]
  · obtain ⟨h, rfl⟩ := encode_eq_ok_iff.mp hbs
    obtain ⟨h', rfl⟩ := encode_eq_ok_iff.mp hbs'
    constructor
    · exact eq_of_wire_prefix h h'
    · rintro rfl
      exact List.prefix_rfl

/-- A byte moves from the sender to the recipient. -/
theorem encodings_prefix_free_movedByte :
    let m : CrossChainMessage := ⟨2 ^ 128 - 1, 0, 1, [0x61, 0x62], [0x63], [], []⟩
    let m' : CrossChainMessage := ⟨2 ^ 128 - 1, 0, 1, [0x61], [0x62, 0x63], [], []⟩
    m.encode = .ok m.wire ∧ m'.encode = .ok m'.wire ∧ ¬ m.wire <+: m'.wire := by
  intro m m'
  have h : m.encode = .ok m.wire := rfl
  have h' : m'.encode = .ok m'.wire := rfl
  refine ⟨h, h', fun hp => ?_⟩
  have hsender : m.sender = m'.sender :=
    congrArg sender ((encodings_prefix_free.2.2 m m' _ _ h h').mp hp)
  exact absurd hsender (by decide)

end CrossChainMessage

/-! ### The message that signers sign -/

namespace SignerMessage

/-- The identifier of a message is not negative, and the sizes of its parts fit into the counts
before them. -/
structure IsCountable (m : SignerMessage) : Prop where
  txId : 0 ≤ m.txId
  sender : m.sender.length ≤ 255
  recipient : m.recipient.length ≤ 255
  data : m.data.length ≤ 65535

variable {m m' : SignerMessage}

/-- A message is countable when it passes all checks. -/
theorem isCountable_iff : m.IsCountable ↔ ∀ check ∈ m.checks, check.1 = false := by
  simp only [checks, List.forall_mem_cons, decide_eq_false_iff_not, Int.not_lt, Nat.not_lt]
  constructor
  · rintro ⟨htx, hsender, hrecipient, hdata⟩
    exact ⟨htx, hsender, hrecipient, hdata, by simp⟩
  · rintro ⟨htx, hsender, hrecipient, hdata, -⟩
    exact ⟨htx, hsender, hrecipient, hdata⟩

/-- The messages with a byte string are the countable ones, and it is their fields. -/
theorem encode_eq_ok_iff {bs : Bytes} : m.encode = .ok bs ↔ m.IsCountable ∧ bs = m.wire := by
  rw [encode_eq, refuseFirst_eq_ok_iff, isCountable_iff]

/-- Of an identifier, the fields tell the low eight bytes. -/
theorem ofNatLE_toNat_eq_iff {n k : Int} (hn : 0 ≤ n) (hk : 0 ≤ k) :
    Bytes.ofNatLE 8 n.toNat = Bytes.ofNatLE 8 k.toNat ↔ n % 2 ^ 64 = k % 2 ^ 64 := by
  rw [Bytes.ofNatLE_eq_iff]
  omega

/-- Messages with labels of agreed sizes have the same fields exactly when they agree but for the
high bytes of the identifier. -/
theorem wire_eq_wire_iff (h : m.IsCountable) (h' : m'.IsCountable)
    (hsource : m.sourceChain.length = m'.sourceChain.length)
    (hdest : m.destChain.length = m'.destChain.length) :
    m.wire = m'.wire ↔ m.txId % 2 ^ 64 = m'.txId % 2 ^ 64 ∧ m.sourceChain = m'.sourceChain ∧
      m.destChain = m'.destChain ∧ m.sender = m'.sender ∧ m.recipient = m'.recipient ∧
      m.data = m'.data := by
  constructor
  · intro heq
    have hp : m.wire ++ [] <+: m'.wire ++ [] := heq ▸ List.prefix_rfl
    simp only [wire, List.append_assoc] at hp
    obtain ⟨htx, hp⟩ := (Bytes.append_prefix_append_iff (by simp)).mp hp
    obtain ⟨hsource, hp⟩ := (Bytes.append_prefix_append_iff hsource).mp hp
    obtain ⟨hdest, hp⟩ := (Bytes.append_prefix_append_iff hdest).mp hp
    obtain ⟨hsender, hp⟩ := (Bytes.counted_append_prefix_iff (Nat.lt_succ_of_le h.sender)
      (Nat.lt_succ_of_le h'.sender)).mp hp
    obtain ⟨hrecipient, hp⟩ := (Bytes.counted_append_prefix_iff (Nat.lt_succ_of_le h.recipient)
      (Nat.lt_succ_of_le h'.recipient)).mp hp
    obtain ⟨hdata, -⟩ := (Bytes.counted_append_prefix_iff (Nat.lt_succ_of_le h.data)
      (Nat.lt_succ_of_le h'.data)).mp hp
    exact ⟨(ofNatLE_toNat_eq_iff h.txId h'.txId).mp htx, hsource, hdest, hsender, hrecipient,
      hdata⟩
  · rintro ⟨htx, hsource, hdest, hsender, hrecipient, hdata⟩
    rw [wire, wire, (ofNatLE_toNat_eq_iff h.txId h'.txId).mpr htx, hsource, hdest, hsender,
      hrecipient, hdata]

/-- **The byte string that signers sign is unambiguous among labels of agreed sizes.** Just the
countable messages have one. With labels of the same sizes, two messages have the same one exactly
when they agree in everything but the bytes of their identifiers above the eighth. Labels padded to
one size have that size, are refused just when they are longer than a size that can be told, and
have the same field just when they agree up to the zeros at their ends, whatever the memory has room
for. -/
theorem encodings_unambiguous :
    (∀ m : SignerMessage, (∃ bs, m.encode = .ok bs) ↔ m.IsCountable) ∧
      (∀ (m m' : SignerMessage) (bs bs' : Bytes), m.encode = .ok bs → m'.encode = .ok bs' →
        m.sourceChain.length = m'.sourceChain.length → m.destChain.length = m'.destChain.length →
        (bs = bs' ↔ m.txId % 2 ^ 64 = m'.txId % 2 ^ 64 ∧ m.sourceChain = m'.sourceChain ∧
          m.destChain = m'.destChain ∧ m.sender = m'.sender ∧ m.recipient = m'.recipient ∧
          m.data = m'.data)) ∧
      (∀ (capacity : Nat) (label : ChainLabel) (size : Int),
        ((∃ e, label.padded capacity size = .error (.refused e)) ↔
          size < label.toBytes.length ∧ size.natAbs < 10 ^ Integer.maxDigits) ∧
        (label.padded capacity size = .error .unwritable ↔
          size < label.toBytes.length ∧ 10 ^ Integer.maxDigits ≤ size.natAbs) ∧
        ((∃ field, label.padded capacity size = .ok field) ↔
          label.toBytes.length ≤ size ∧
            size ≤ label.toBytes.length + min capacity ChainLabel.countLimit)) ∧
      ∀ (capacity : Nat) (label label' : ChainLabel) (size : Int) (field field' : Bytes),
        label.padded capacity size = .ok field → label'.padded capacity size = .ok field' →
        (field.length : Int) = size ∧
          (field = field' ↔ label.toBytes.trimZeros = label'.toBytes.trimZeros) := by
  refine ⟨fun m => ?_, fun m m' bs bs' hbs hbs' hsource hdest => ?_, fun capacity label size => ?_,
    fun capacity label label' size field field' h h' => ?_⟩
  · simp only [encode_eq_ok_iff, exists_and_left, exists_eq, and_true]
  · obtain ⟨h, rfl⟩ := encode_eq_ok_iff.mp hbs
    obtain ⟨h', rfl⟩ := encode_eq_ok_iff.mp hbs'
    exact wire_eq_wire_iff h h' hsource hdest
  · exact ⟨ChainLabel.exists_padded_eq_refused_iff, ChainLabel.padded_eq_unwritable_iff,
      ChainLabel.exists_padded_eq_ok_iff⟩
  · exact ⟨ChainLabel.length_of_padded h, ChainLabel.field_eq_field_iff h h'⟩

/-- Two labels that differ by a zero at the end and two identifiers with the same low bytes give
one byte string; a byte that moves from the recipient to the data gives another. -/
theorem encodings_unambiguous_paddedLabels :
    let m : SignerMessage := ⟨7, [0x65, 0x74, 0x68, 0], [0x62, 0, 0, 0], [1], [2, 3], [4]⟩
    let m' : SignerMessage := ⟨7 + 2 ^ 64, m.sourceChain, m.destChain, [1], [2, 3], [4]⟩
    let m'' : SignerMessage := ⟨7, m.sourceChain, m.destChain, [1], [2], [3, 4]⟩
    (ChainLabel.text "eth").padded 1 4 = .ok m.sourceChain ∧
      (ChainLabel.bytes [0x65, 0x74, 0x68, 0]).padded 1 4 = .ok m'.sourceChain ∧
      m.sourceChain = m'.sourceChain ∧ m.encode = .ok m.wire ∧ m'.encode = .ok m'.wire ∧
      m.wire = m'.wire ∧ m''.encode = .ok m''.wire ∧ m.wire ≠ m''.wire := by
  intro m m' m''
  have hlabel : (ChainLabel.text "eth").padded 1 4 = .ok m.sourceChain := by decide +kernel
  have hlabel' : (ChainLabel.bytes [0x65, 0x74, 0x68, 0]).padded 1 4 = .ok m'.sourceChain := rfl
  have h : m.encode = .ok m.wire := rfl
  have h' : m'.encode = .ok m'.wire := rfl
  have h'' : m''.encode = .ok m''.wire := rfl
  obtain ⟨-, hmessages, -, hlabels⟩ := encodings_unambiguous
  refine ⟨hlabel, hlabel', ?_, h, h', ?_, h'', fun heq => ?_⟩
  · exact (hlabels 1 _ _ 4 _ _ hlabel hlabel').2.mpr (by decide +kernel)
  · exact (hmessages m m' _ _ h h' rfl rfl).mpr ⟨by decide, rfl, rfl, rfl, rfl, rfl⟩
  · have hdata : m.data = m''.data := ((hmessages m m'' _ _ h h'' rfl rfl).mp heq).2.2.2.2.2
    exact absurd hdata (by decide)

end SignerMessage

end MessageGateway
