import MessageGateway.Proofs.Wire.Refusal

/-!
# Lists are checked once

The reader of a list reads its count, asks for the bytes of all elements at once, and only then goes
through the elements. The reads of elements that it makes are a list of their own (`elementCalls`),
and what they give is what the loop over the elements gives (`readElements_eq_gather`). Behind the
check there are enough bytes for every element, so that no read of an element is refused, and so
there are no more of these reads than elements fit into the buffer.

## Main definitions

* `MessageGateway.ElementCall`, `MessageGateway.elementCalls`, `MessageGateway.gather`.
* `MessageGateway.ListFormat` — the two kinds of lists.
* `MessageGateway.ListFormat.IsCheckedOnce`.

## Main results

* `MessageGateway.readCount_cases` — the three ways in which the check ends.
* `MessageGateway.elementCalls_eq_map` — the reads of the elements that are there.
* `MessageGateway.lists_checked_once`.
-/

namespace MessageGateway

/-! ### The reads of elements -/

/-- A read of an element: the number of the element, and the offset. -/
structure ElementCall where
  index : Nat
  offset : Int
  deriving DecidableEq

section Elements

variable {α : Type} {element : Nat → Int → Except OutOfBounds (α × Int)}

/-- The reads that a loop over elements makes, up to the first that is refused. -/
def elementCalls (element : Nat → Int → Except OutOfBounds (α × Int)) :
    (count index : Nat) → (offset : Int) → List ElementCall
  | 0, _, _ => []
  | count + 1, index, offset =>
    ⟨index, offset⟩ :: match element index offset with
      | .error _ => []
      | .ok (_, next) => elementCalls element count (index + 1) next

/-- The values that reads of elements give, made one after the other, and the offset behind the
last. -/
def gather (element : Nat → Int → Except OutOfBounds (α × Int)) :
    List ElementCall → (offset : Int) → Except OutOfBounds (List α × Int)
  | [], offset => .ok ([], offset)
  | call :: calls, _ => do
    let (value, next) ← element call.index call.offset
    let (values, last) ← gather element calls next
    return (value :: values, last)

/-- A loop over elements gives what its reads give. -/
theorem readElements_eq_gather (count index : Nat) (offset : Int) :
    readElements element count index offset =
      gather element (elementCalls element count index offset) offset := by
  induction count generalizing index offset with
  | zero => rfl
  | succ count ih =>
    rw [readElements, elementCalls, gather]
    cases element index offset with
    | error e => rfl
    | ok read =>
      change (readElements element count (index + 1) read.2 >>= _) = (gather element _ _ >>= _)
      rw [ih]

/-- Elements for which there are enough bytes are read one after the other. -/
theorem elementCalls_eq_map {buffer : Bytes} {size : Nat} {entry : Nat → α}
    (h : ∀ i (o : Nat), size ≤ available buffer o →
      element i o = .ok (entry o, ((o + size : Nat) : Int)))
    (count index offset : Nat) (hroom : count * size ≤ available buffer offset) :
    elementCalls element count index offset =
      (List.range count).map fun i => ⟨index + i, ((offset + i * size : Nat) : Int)⟩ := by
  induction count generalizing index offset with
  | zero => rfl
  | succ count ih =>
    obtain ⟨hfirst, hrest⟩ := available_of_succ_mul_le hroom
    have hcalls : elementCalls element (count + 1) index offset =
        ⟨index, offset⟩ :: elementCalls element count (index + 1) ((offset + size : Nat) : Int) := by
      rw [elementCalls, h index offset hfirst]
    rw [hcalls, ih (index + 1) (offset + size) hrest]
    exact (map_range_succ_eq_cons (fun i o => ElementCall.mk i o) count index offset size).symm

end Elements

/-! ### The check -/

/-- The count of a list at an offset. -/
def listCount (buffer : Bytes) (offset : Int) : Nat :=
  (buffer.slice offset.toNat 4).toNatLE

/-- The check of a list ends in one of three ways: the count is not there, not all of the elements
are there, or all is there. -/
theorem readCount_cases (buffer : Bytes) (offset size : Nat) (field : String) :
    (buffer.length < offset + 4 ∧ readCount buffer offset size field =
      .error ⟨field ++ ".count", offset, 4, available buffer offset⟩) ∨
    (offset + 4 ≤ buffer.length ∧ buffer.length < offset + 4 + listCount buffer offset * size ∧
      readCount buffer offset size field = .error ⟨field, ((offset + 4 : Nat) : Int),
        (listCount buffer offset * size : Nat), available buffer ((offset + 4 : Nat) : Int)⟩) ∨
    (offset + 4 + listCount buffer offset * size ≤ buffer.length ∧
      readCount buffer offset size field =
        .ok (listCount buffer offset, ((offset + 4 : Nat) : Int))) := by
  have hnumber : Answers buffer offset [⟨field ++ ".count", offset, 4⟩]
      (readNumber buffer offset 4 (field ++ ".count")) := answers_readNumber
  by_cases hfits : (⟨field ++ ".count", offset, 4⟩ : Request).Fits buffer
  · obtain ⟨count, hread⟩ := hnumber.exists_eq_ok (Request.firstMisfit?_of_fits hfits)
    obtain rfl : count = listCount buffer offset := eq_of_readNumber_eq_ok hread
    -- The count is there, so what is left is the one request for all elements.
    let all : Request := ⟨field, offset + 4, listCount buffer offset * size⟩
    have hcheck : readCount buffer offset size field =
        ensureAvailable buffer all.offset all.size all.field >>= fun _ =>
          .ok (listCount buffer offset, ((offset + 4 : Nat) : Int)) := by
      rw [readCount, hread]
      rfl
    rw [hcheck]
    by_cases hall : all.Fits buffer
    · refine .inr (.inr ⟨?_, by rw [hall.ensureAvailable_eq_ok]; rfl⟩)
      simp only [Request.fits_iff, all] at hfits hall
      omega
    · refine .inr (.inl ⟨?_, ?_, by rw [Request.ensureAvailable_eq_error hall]; rfl⟩)
      · simp only [Request.fits_iff] at hfits
        omega
      · simp only [Request.fits_iff, all] at hall
        omega
  · refine .inl ⟨?_, ?_⟩
    · simp only [Request.fits_iff] at hfits
      omega
    · rw [readCount, hnumber.eq_error (Request.firstMisfit?_of_not_fits hfits)]
      rfl

/-! ### The two kinds of lists -/

/-- How the lists of a kind are read: the size of an element, the read of one, and the entry that
lies at an offset, which is what is read where there are enough bytes. -/
structure ListFormat (α : Type) where
  size : Nat
  element : (buffer : Bytes) → (field : String) → (index : Nat) → (offset : Int) →
    Except OutOfBounds (α × Int)
  entry : (buffer : Bytes) → (offset : Nat) → α
  size_pos : 0 < size
  element_eq_ok : ∀ (buffer : Bytes) (field : String) (index offset : Nat),
    size ≤ available buffer offset →
      element buffer field index offset = .ok (entry buffer offset, ((offset + size : Nat) : Int))

namespace ListFormat

/-- Lists of public keys. -/
def keys : ListFormat Bytes where
  size := keySize
  element buffer field index offset := readBytes buffer offset keySize (elementName field index)
  entry buffer offset := buffer.slice offset keySize
  size_pos := by decide
  element_eq_ok _ _ _ _ h := readBytes_eq_ok _ h

/-- Lists of signatures, each with its signer's public key behind it. -/
def signatures : ListFormat (Bytes × Bytes) where
  size := signatureSize + keySize
  element buffer field index offset := readSignature buffer offset (elementName field index)
  entry buffer offset :=
    (buffer.slice offset signatureSize, buffer.slice (offset + signatureSize) keySize)
  size_pos := by decide
  element_eq_ok _ _ _ _ h := readSignature_eq_ok _ h

section Read

variable {α : Type} (f : ListFormat α) (buffer : Bytes) (offset : Int) (field : String)

/-- The list at an offset. -/
def read : Except OutOfBounds (List α × Int) :=
  readCount buffer offset f.size field >>= fun p =>
    readElements (f.element buffer field) p.1 0 p.2

/-- The reads of elements that are made for the list at an offset: none if the check fails. -/
def calls : List ElementCall :=
  match readCount buffer offset f.size field with
  | .error _ => []
  | .ok (count, next) => elementCalls (f.element buffer field) count 0 next

/-- The list at an offset is checked once, behind its count, and for all of its elements. -/
structure IsCheckedOnce (read : Except OutOfBounds (List α × Int)) : Prop where
  /-- The list is what the reads of its elements give, and these are made behind the check only. -/
  read_eq : read = readCount buffer offset f.size field >>= fun p =>
    gather (f.element buffer field) (f.calls buffer offset field) p.2
  /-- The list is read exactly if its count and as many elements lie in the buffer. -/
  exists_ok_iff : (∃ values next, read = .ok (values, next)) ↔
    offset + 4 ≤ buffer.length ∧
      (listCount buffer offset * f.size : Nat) ≤ buffer.length - offset - 4
  /-- It then has as many entries as its count says, one behind the other, and ends behind the
  last, within the buffer. -/
  of_ok : ∀ values next, read = .ok (values, next) →
    values = ((List.range (listCount buffer offset)).map fun i =>
      f.entry buffer (offset.toNat + 4 + i * f.size)) ∧
      next = offset + 4 + (listCount buffer offset * f.size : Nat) ∧ next ≤ buffer.length
  /-- Otherwise no element is read, and what is refused is the count or all elements at once. -/
  of_error : ∀ e, read = .error e → f.calls buffer offset field = [] ∧
    ((buffer.length < offset + 4 ∧
        e = ⟨field ++ ".count", offset, 4, available buffer offset⟩) ∨
      (offset + 4 ≤ buffer.length ∧ e = ⟨field, offset + 4,
        (listCount buffer offset * f.size : Nat), available buffer (offset + 4)⟩))
  /-- No read of an element is refused. -/
  element_ok : ∀ call ∈ f.calls buffer offset field,
    ∃ result, f.element buffer field call.index call.offset = .ok result
  /-- No more elements are read than fit into the buffer. -/
  length_calls_le : (f.calls buffer offset field).length ≤ buffer.length / f.size

end Read

theorem read_eq_gather {α : Type} (f : ListFormat α) (buffer : Bytes) (offset : Int)
    (field : String) :
    f.read buffer offset field = readCount buffer offset f.size field >>= fun p =>
      gather (f.element buffer field) (f.calls buffer offset field) p.2 := by
  unfold read calls
  cases readCount buffer offset f.size field with
  | error e => rfl
  | ok p => exact readElements_eq_gather p.1 0 p.2

section Check

variable {α : Type} {f : ListFormat α} {buffer : Bytes} {offset : Nat} {field : String}

/-! ### The check fails -/

section Refused

variable {e : OutOfBounds} (hcount : readCount buffer offset f.size field = .error e)

include hcount

theorem read_of_refused : f.read buffer offset field = .error e := by
  rw [read, hcount]
  rfl

theorem calls_of_refused : f.calls buffer offset field = [] := by
  rw [calls, hcount]

theorem isCheckedOnce_of_refused
    (hmisfit : buffer.length < offset + 4 + listCount buffer offset * f.size)
    (he : (buffer.length < offset + 4 ∧
        e = ⟨field ++ ".count", offset, 4, available buffer offset⟩) ∨
      (offset + 4 ≤ buffer.length ∧ e = ⟨field, ((offset + 4 : Nat) : Int),
        (listCount buffer offset * f.size : Nat), available buffer ((offset + 4 : Nat) : Int)⟩)) :
    f.IsCheckedOnce buffer offset field (f.read buffer offset field) := by
  have hread := read_of_refused hcount
  have hcalls := calls_of_refused hcount
  constructor
  case read_eq => exact f.read_eq_gather buffer offset field
  case exists_ok_iff =>
    constructor
    · rintro ⟨values, next, hok⟩
      cases hread.symm.trans hok
    · rintro ⟨-, hall⟩
      omega
  case of_ok =>
    intro values next hok
    cases hread.symm.trans hok
  case of_error =>
    intro e' he'
    obtain rfl : e = e' := Except.error.inj (hread.symm.trans he')
    exact ⟨hcalls, he.imp (And.imp_left Int.ofNat_lt.mpr) (And.imp_left Int.ofNat_le.mpr)⟩
  case element_ok =>
    rw [hcalls]
    exact List.forall_mem_nil _
  case length_calls_le =>
    rw [hcalls]
    exact Nat.zero_le _

end Refused

/-! ### The check passes -/

section Granted

variable (hcount : readCount buffer offset f.size field =
    .ok (listCount buffer offset, ((offset + 4 : Nat) : Int)))
  (hroom : offset + 4 + listCount buffer offset * f.size ≤ buffer.length)

include hroom

theorem mul_size_le_available :
    listCount buffer offset * f.size ≤ available buffer ((offset + 4 : Nat) : Int) := by
  unfold available
  omega

/-- There are enough bytes for every element of the list. -/
theorem size_le_available {i : Nat} (hi : i < listCount buffer offset) :
    f.size ≤ available buffer ((offset + 4 + i * f.size : Nat) : Int) := by
  have hlast : (i + 1) * f.size ≤ listCount buffer offset * f.size :=
    Nat.mul_le_mul_right f.size hi
  rw [Nat.succ_mul] at hlast
  unfold available
  omega

include hcount

theorem read_of_granted :
    f.read buffer offset field =
      .ok ((List.range (listCount buffer offset)).map fun i =>
          f.entry buffer (offset + 4 + i * f.size),
        ((offset + 4 + listCount buffer offset * f.size : Nat) : Int)) := by
  rw [read, hcount]
  exact readElements_eq_ok (f.element_eq_ok buffer field) _ 0 (offset + 4)
    (mul_size_le_available hroom)

theorem calls_of_granted :
    f.calls buffer offset field =
      (List.range (listCount buffer offset)).map fun i =>
        ⟨i, ((offset + 4 + i * f.size : Nat) : Int)⟩ := by
  have hmap := elementCalls_eq_map (f.element_eq_ok buffer field) _ 0 (offset + 4)
    (mul_size_le_available hroom)
  simp only [Nat.zero_add] at hmap
  rw [calls, hcount]
  exact hmap

theorem isCheckedOnce_of_granted :
    f.IsCheckedOnce buffer offset field (f.read buffer offset field) := by
  have hread := read_of_granted hcount hroom
  have hcalls := calls_of_granted hcount hroom
  constructor
  case read_eq => exact f.read_eq_gather buffer offset field
  case exists_ok_iff =>
    refine iff_of_true ⟨_, _, hread⟩ ⟨?_, ?_⟩
    · omega
    · omega
  case of_ok =>
    intro values next hok
    obtain ⟨rfl, rfl⟩ := Prod.mk.inj (Except.ok.inj (hread.symm.trans hok))
    exact ⟨rfl, rfl, Int.ofNat_le.mpr hroom⟩
  case of_error =>
    intro e he
    cases hread.symm.trans he
  case element_ok =>
    rw [hcalls]
    intro call hcall
    obtain ⟨i, hi, rfl⟩ := List.mem_map.mp hcall
    exact ⟨_, f.element_eq_ok buffer field _ _ (size_le_available hroom (List.mem_range.mp hi))⟩
  case length_calls_le =>
    rw [hcalls, List.length_map, List.length_range, Nat.le_div_iff_mul_le f.size_pos]
    omega

end Granted

theorem isCheckedOnce_read (f : ListFormat α) (buffer : Bytes) (offset : Nat) (field : String) :
    f.IsCheckedOnce buffer offset field (f.read buffer offset field) := by
  obtain ⟨hcut, hcount⟩ | ⟨hfits, hlarge, hcount⟩ | ⟨hroom, hcount⟩ :=
    readCount_cases buffer offset f.size field
  · exact isCheckedOnce_of_refused hcount (Nat.lt_of_lt_of_le hcut (Nat.le_add_right _ _))
      (.inl ⟨hcut, rfl⟩)
  · exact isCheckedOnce_of_refused hcount hlarge (.inr ⟨hfits, rfl⟩)
  · exact isCheckedOnce_of_granted hcount hroom

end Check

end ListFormat

/-- **Lists are checked once.** A list of public keys or of signatures is read exactly if its count
and as many elements lie in the buffer, the size of them all being a number without bound. It then
has the entries that lie there one behind the other, and ends within the buffer. Otherwise the count
is refused or all elements at once, before any of them is read. No read of an element is ever
refused, and there are no more of them than elements fit into the buffer. -/
theorem lists_checked_once (buffer : Bytes) (offset : Int) (field : String) (hstart : 0 ≤ offset) :
    ListFormat.keys.IsCheckedOnce buffer offset field (readKeys buffer offset field) ∧
      ListFormat.signatures.IsCheckedOnce buffer offset field
        (readSignatures buffer offset field) := by
  obtain ⟨offset, rfl⟩ := Int.eq_ofNat_of_zero_le hstart
  exact ⟨ListFormat.keys.isCheckedOnce_read buffer offset field,
    ListFormat.signatures.isCheckedOnce_read buffer offset field⟩

/-- Two public keys behind another byte are read; as signatures they are refused at once, and so is
a public key behind the greatest count. -/
theorem lists_checked_once_twoKeys :
    let buffer : Bytes := 7 :: Bytes.ofNatLE 4 2 ++ List.replicate 32 5 ++ List.replicate 32 6
    let large : Bytes := List.replicate 4 255 ++ List.replicate 32 5
    (0 : Int) ≤ 1 ∧
      readKeys buffer 1 "signers" = .ok ([List.replicate 32 5, List.replicate 32 6], 69) ∧
      readSignatures buffer 1 "signers" = .error ⟨"signers", 5, 192, 64⟩ ∧
      ListFormat.signatures.calls buffer 1 "signers" = [] ∧
      readKeys large 0 "signers" = .error ⟨"signers", 4, 0xffffffff * 32, 32⟩ ∧
      ListFormat.keys.calls large 0 "signers" = [] := by
  intro buffer large
  obtain ⟨hkeys, hsignatures⟩ := lists_checked_once buffer 1 "signers" (by decide)
  obtain ⟨values, next, hread⟩ := hkeys.exists_ok_iff.mpr (by decide)
  obtain ⟨rfl, rfl, -⟩ := hkeys.of_ok values next hread
  have hrefused : readSignatures buffer 1 "signers" = .error ⟨"signers", 5, 192, 64⟩ := rfl
  have hlarge : readKeys large 0 "signers" = .error ⟨"signers", 4, 0xffffffff * 32, 32⟩ := rfl
  exact ⟨by decide, hread, hrefused, (hsignatures.of_error _ hrefused).1, hlarge,
    ((lists_checked_once large 0 "signers" (by decide)).1.of_error _ hlarge).1⟩

end MessageGateway
