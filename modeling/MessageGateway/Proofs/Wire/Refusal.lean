import MessageGateway.Proofs.Wire.Reading

/-!
# Which request is refused

Every read consists of requests for bytes (`Request`). What is read of a field is either so many
bytes, or a count and as many units (`Span`), so the requests that a list of fields comes to are
known from the buffer alone, one behind the other (`Span.walk`). A read answers its requests
(`Answers`): it succeeds if all of them fit, and ends behind the last, and otherwise it reports the
first that does not fit. The elements of a list are no requests of their own, since all of their
bytes are asked for at once.

## Main definitions

* `MessageGateway.Request`, `MessageGateway.Request.Fits`, `MessageGateway.Request.refusal`.
* `MessageGateway.Span`, `MessageGateway.Span.walk`.
* `MessageGateway.Answers`.

## Main results

* `MessageGateway.Answers.bind` — two reads, one behind the other.
* `MessageGateway.readElements_eq_ok` — the elements of a list that fits are read.
* `MessageGateway.Shape.answers_read` — a read of a shape answers the requests of its field.
-/

namespace MessageGateway

/-! ### Requests -/

/-- A request for bytes of a buffer: the name it is reported under, the offset and the size. -/
structure Request where
  field : String
  offset : Nat
  size : Nat
  deriving DecidableEq

namespace Request

/-- There are as many bytes as are asked for. -/
def Fits (buffer : Bytes) (r : Request) : Prop :=
  r.size ≤ available buffer r.offset

instance (buffer : Bytes) (r : Request) : Decidable (r.Fits buffer) :=
  inferInstanceAs (Decidable (r.size ≤ available buffer r.offset))

/-- A request fits if it lies within the buffer, and so does one for no bytes. -/
theorem fits_iff {buffer : Bytes} {r : Request} :
    r.Fits buffer ↔ r.offset + r.size ≤ buffer.length ∨ r.size = 0 := by
  unfold Fits available
  omega

/-- How a request that does not fit is reported. -/
def refusal (buffer : Bytes) (r : Request) : OutOfBounds :=
  ⟨r.field, r.offset, r.size, available buffer r.offset⟩

/-- The first request that does not fit. -/
def firstMisfit? (buffer : Bytes) (requests : List Request) : Option Request :=
  requests.find? fun r => !decide (r.Fits buffer)

/-- How many bytes are asked for. -/
def total : List Request → Nat
  | [] => 0
  | r :: requests => r.size + total requests

@[simp] theorem total_singleton (r : Request) : total [r] = r.size :=
  rfl

theorem total_append (requests requests' : List Request) :
    total (requests ++ requests') = total requests + total requests' := by
  induction requests with
  | nil => rw [List.nil_append, total, Nat.zero_add]
  | cons r requests ih => rw [List.cons_append, total, total, ih, Nat.add_assoc]

theorem firstMisfit?_append (buffer : Bytes) (requests requests' : List Request) :
    firstMisfit? buffer (requests ++ requests') =
      (firstMisfit? buffer requests).or (firstMisfit? buffer requests') :=
  List.find?_append

theorem firstMisfit?_of_fits {buffer : Bytes} {r : Request} (h : r.Fits buffer) :
    firstMisfit? buffer [r] = none := by
  simp [firstMisfit?, h]

theorem firstMisfit?_of_not_fits {buffer : Bytes} {r : Request} (h : ¬ r.Fits buffer) :
    firstMisfit? buffer [r] = some r := by
  simp [firstMisfit?, h]

theorem Fits.ensureAvailable_eq_ok {buffer : Bytes} {r : Request} (h : r.Fits buffer) :
    ensureAvailable buffer r.offset r.size r.field = .ok () :=
  if_neg (not_or.mpr ⟨Int.not_lt.mpr (Int.natCast_nonneg r.offset), Nat.not_lt.mpr h⟩)

theorem ensureAvailable_eq_error {buffer : Bytes} {r : Request} (h : ¬ r.Fits buffer) :
    ensureAvailable buffer r.offset r.size r.field = .error (r.refusal buffer) :=
  if_pos (.inr (Nat.lt_of_not_le h))

end Request

/-- What is read of a field. -/
inductive Span where
  /-- So many bytes. -/
  | fixed (name : String) (size : Nat)
  /-- A count of four bytes, reported under the name with a suffix, and behind it that many units
  of so many bytes each. -/
  | counted (name suffix : String) (unit : Nat)
  deriving DecidableEq

namespace Span

/-- The requests of a field at an offset. The count tells how many bytes are asked for. -/
def requests (buffer : Bytes) (offset : Nat) : Span → List Request
  | .fixed name size => [⟨name, offset, size⟩]
  | .counted name suffix unit =>
    [⟨name ++ suffix, offset, 4⟩, ⟨name, offset + 4, (buffer.slice offset 4).toNatLE * unit⟩]

/-- The requests of fields one behind the other, from an offset on. -/
def walk (buffer : Bytes) : List Span → (offset : Nat) → List Request
  | [], _ => []
  | s :: spans, offset =>
    let here := s.requests buffer offset
    here ++ walk buffer spans (offset + Request.total here)

end Span

/-- What is read of a field of a shape. -/
def Shape.span (name : String) : Shape → Span
  | .number width => .fixed name width
  | .flag => .fixed name 1
  | .fixed size => .fixed name size
  | .key => .fixed name keySize
  | .blob => .counted name ".length" 1
  | .keys => .counted name ".count" keySize
  | .signatures => .counted name ".count" (signatureSize + keySize)

/-! ### Answers -/

/-- A read answers requests when it succeeds if all of them fit, and ends behind the last, and
otherwise reports the first that does not fit. -/
def Answers {α : Type} (buffer : Bytes) (offset : Nat) (requests : List Request)
    (read : Except OutOfBounds (α × Int)) : Prop :=
  match Request.firstMisfit? buffer requests with
  | none => ∃ v, read = .ok (v, ((offset + Request.total requests : Nat) : Int))
  | some r => read = .error (r.refusal buffer)

namespace Answers

variable {α β : Type} {buffer : Bytes} {offset : Nat} {requests requests' : List Request}
  {read : Except OutOfBounds (α × Int)} {r : Request}

theorem eq_error (h : Answers buffer offset requests read)
    (hfirst : Request.firstMisfit? buffer requests = some r) : read = .error (r.refusal buffer) := by
  unfold Answers at h
  rwa [hfirst] at h

theorem exists_eq_ok (h : Answers buffer offset requests read)
    (hfirst : Request.firstMisfit? buffer requests = none) :
    ∃ v, read = .ok (v, ((offset + Request.total requests : Nat) : Int)) := by
  unfold Answers at h
  rwa [hfirst] at h

/-- Two reads, one behind the other. -/
theorem bind {next : α × Int → Except OutOfBounds (β × Int)}
    (h : Answers buffer offset requests read)
    (hnext : ∀ v, read = .ok (v, ((offset + Request.total requests : Nat) : Int)) →
      Answers buffer (offset + Request.total requests) requests'
        (next (v, ((offset + Request.total requests : Nat) : Int)))) :
    Answers buffer offset (requests ++ requests') (read >>= next) := by
  unfold Answers
  rw [Request.firstMisfit?_append]
  cases hfirst : Request.firstMisfit? buffer requests with
  | some r =>
    rw [h.eq_error hfirst]
    rfl
  | none =>
    obtain ⟨v, hread⟩ := h.exists_eq_ok hfirst
    have hrest := hnext v hread
    rw [hread, Request.total_append, ← Nat.add_assoc, Option.none_or]
    exact hrest

/-- A read whose value is taken further. -/
theorem map (g : α → β) {next : α × Int → Except OutOfBounds (β × Int)}
    (hnext : ∀ v o, next (v, o) = .ok (g v, o)) (h : Answers buffer offset requests read) :
    Answers buffer offset requests (read >>= next) := by
  have hbind : Answers buffer offset (requests ++ []) (read >>= next) :=
    h.bind fun v _ => ⟨g v, hnext v _⟩
  rwa [List.append_nil] at hbind

/-- A read that is made only if a request fits. -/
theorem of_guard (h : r.Fits buffer → ∃ v, read = .ok (v, ((offset + r.size : Nat) : Int))) :
    Answers buffer offset [r]
      (ensureAvailable buffer r.offset r.size r.field >>= fun _ => read) := by
  unfold Answers
  by_cases hfits : r.Fits buffer
  · obtain ⟨v, hv⟩ := h hfits
    rw [Request.firstMisfit?_of_fits hfits, Request.total_singleton, hfits.ensureAvailable_eq_ok]
    exact ⟨v, hv⟩
  · rw [Request.firstMisfit?_of_not_fits hfits, Request.ensureAvailable_eq_error hfits]
    rfl

end Answers

/-! ### The readers -/

section Readers

variable {buffer : Bytes} {offset size unit : Nat} {field : String}

theorem answers_readBytes :
    Answers buffer offset [⟨field, offset, size⟩] (readBytes buffer offset size field) :=
  .of_guard (r := ⟨field, offset, size⟩) fun _ => ⟨_, rfl⟩

theorem answers_readNumber :
    Answers buffer offset [⟨field, offset, size⟩] (readNumber buffer offset size field) :=
  answers_readBytes.map Bytes.toNatLE fun _ _ => rfl

theorem answers_readFlag :
    Answers buffer offset [⟨field, offset, 1⟩] (readFlag buffer offset field) :=
  answers_readNumber.map (· != 0) fun _ _ => rfl

/-- The number that is read is that of the bytes at the offset. -/
theorem eq_of_readNumber_eq_ok {n : Nat} {next : Int}
    (h : readNumber buffer offset size field = .ok (n, next)) :
    n = (buffer.slice offset size).toNatLE := by
  obtain ⟨⟨bs, _⟩, hbytes, hn⟩ := bind_eq_ok_iff.mp h
  obtain ⟨⟨⟩, -, hslice⟩ := bind_eq_ok_iff.mp hbytes
  cases hslice
  exact (Prod.mk.inj (Except.ok.inj hn)).1.symm

/-- A count and what is read behind it. -/
theorem answers_counted {α : Type} {suffix : String}
    {next : Nat × Int → Except OutOfBounds (α × Int)}
    (h : ∀ count : Nat, Answers buffer (offset + 4) [⟨field, offset + 4, count * unit⟩]
      (next (count, ((offset + 4 : Nat) : Int)))) :
    Answers buffer offset ((Span.counted field suffix unit).requests buffer offset)
      (readNumber buffer offset 4 (field ++ suffix) >>= next) := by
  have hnumber : Answers buffer offset [⟨field ++ suffix, offset, 4⟩]
      (readNumber buffer offset 4 (field ++ suffix)) := answers_readNumber
  refine hnumber.bind fun n hn => ?_
  obtain rfl := eq_of_readNumber_eq_ok hn
  exact h _

theorem answers_readBlob :
    Answers buffer offset ((Shape.blob.span field).requests buffer offset)
      (readBlob buffer offset field) := by
  refine answers_counted fun size => ?_
  rw [Nat.mul_one]
  exact answers_readBytes

/-! ### Lists -/

section Lists

/-- Where there are enough bytes for all elements, there are for the first, and behind it for the
others. -/
theorem available_of_succ_mul_le {count : Nat} (h : (count + 1) * unit ≤ available buffer offset) :
    unit ≤ available buffer offset ∧
      count * unit ≤ available buffer ((offset + unit : Nat) : Int) := by
  rw [Nat.succ_mul] at h
  unfold available at h ⊢
  omega

/-- What is made of numbered elements one behind the other is made of the first and of those behind
it. -/
theorem map_range_succ_eq_cons {β : Type} (f : (index offset : Nat) → β)
    (count index offset unit : Nat) :
    (List.range (count + 1)).map (fun i => f (index + i) (offset + i * unit)) =
      f index offset ::
        (List.range count).map fun i => f (index + 1 + i) (offset + unit + i * unit) := by
  rw [List.range_succ_eq_map, List.map_cons, List.map_map, Nat.zero_mul, Nat.add_zero,
    Nat.add_zero]
  refine congrArg _ (List.map_congr_left fun i _ => congrArg₂ f ?_ ?_)
  · exact Nat.add_right_comm index i 1
  · rw [Nat.succ_mul, Nat.add_comm (i * unit), ← Nat.add_assoc]

variable {α : Type} {read : Nat → Int → Except OutOfBounds (α × Int)} {entry : Nat → α}

/-- Elements for which there are enough bytes are all read, each where the one before it ends. -/
theorem readElements_eq_ok
    (h : ∀ i (o : Nat), unit ≤ available buffer o →
      read i o = .ok (entry o, ((o + unit : Nat) : Int)))
    (count index offset : Nat) (hroom : count * unit ≤ available buffer offset) :
    readElements read count index offset =
      .ok ((List.range count).map fun i => entry (offset + i * unit),
        ((offset + count * unit : Nat) : Int)) := by
  induction count generalizing index offset with
  | zero => simp [readElements]
  | succ count ih =>
    obtain ⟨hfirst, hrest⟩ := available_of_succ_mul_le hroom
    have hlast : offset + (count + 1) * unit = offset + unit + count * unit := by
      rw [Nat.succ_mul, Nat.add_comm (count * unit), ← Nat.add_assoc]
    rw [readElements, h index offset hfirst, hlast,
      map_range_succ_eq_cons (fun _ o => entry o) count index offset unit]
    change (readElements read count (index + 1) ((offset + unit : Nat) : Int) >>= _) = _
    rw [ih (index + 1) (offset + unit) hrest]
    rfl

/-- A list answers for its count and for all of its elements at once. -/
theorem answers_readCount_bind
    (h : ∀ i (o : Nat), unit ≤ available buffer o →
      read i o = .ok (entry o, ((o + unit : Nat) : Int))) :
    Answers buffer offset ((Span.counted field ".count" unit).requests buffer offset)
      (readCount buffer offset unit field >>= fun p => readElements read p.1 0 p.2) := by
  rw [readCount_bind]
  refine answers_counted fun count => ?_
  exact .of_guard (r := ⟨field, offset + 4, count * unit⟩) fun hfits =>
    ⟨_, readElements_eq_ok h count 0 (offset + 4) hfits⟩

end Lists

theorem readBytes_eq_ok (field : String) (h : size ≤ available buffer offset) :
    readBytes buffer offset size field =
      .ok (buffer.slice offset size, ((offset + size : Nat) : Int)) := by
  have hfits : (⟨field, offset, size⟩ : Request).Fits buffer := h
  rw [readBytes, hfits.ensureAvailable_eq_ok]
  rfl

theorem readSignature_eq_ok (field : String)
    (h : signatureSize + keySize ≤ available buffer offset) :
    readSignature buffer offset field =
      .ok ((buffer.slice offset signatureSize, buffer.slice (offset + signatureSize) keySize),
        ((offset + (signatureSize + keySize) : Nat) : Int)) := by
  have hsigner : keySize ≤ available buffer ((offset + signatureSize : Nat) : Int) := by
    unfold available at h ⊢
    omega
  rw [readSignature, readBytes_eq_ok (field ++ ".signature")
    (Nat.le_trans (Nat.le_add_right signatureSize keySize) h)]
  change (readBytes buffer ((offset + signatureSize : Nat) : Int) keySize _ >>= _) = _
  rw [readBytes_eq_ok (field ++ ".signer") hsigner]
  rfl

theorem answers_readKeys :
    Answers buffer offset ((Shape.keys.span field).requests buffer offset)
      (readKeys buffer offset field) :=
  answers_readCount_bind fun _ _ => readBytes_eq_ok _

theorem answers_readSignatures :
    Answers buffer offset ((Shape.signatures.span field).requests buffer offset)
      (readSignatures buffer offset field) :=
  answers_readCount_bind fun _ _ => readSignature_eq_ok _

/-- A read of a shape answers the requests of its field. -/
theorem Shape.answers_read : (s : Shape) →
    Answers buffer offset ((s.span field).requests buffer offset) (s.read buffer offset field)
  | .number _ => answers_readNumber
  | .flag => answers_readFlag
  | .fixed _ => answers_readBytes
  | .key => answers_readBytes
  | .blob => answers_readBlob
  | .keys => answers_readKeys
  | .signatures => answers_readSignatures

end Readers

end MessageGateway
