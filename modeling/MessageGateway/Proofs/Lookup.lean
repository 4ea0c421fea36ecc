import Mathlib.Data.List.Nodup

/-!
# Looking keys up in lists

A table is a list of entries, each with a key and a value, and a key stands for the first entry that
has it. Where no two entries have the same key, every entry is found by its key.

## Main results

* `MessageGateway.mem_of_lookup`, `MessageGateway.lookup_eq_some_of_mem`.
-/

namespace MessageGateway

variable {κ α : Type} [BEq κ] [LawfulBEq κ] {entries : List (κ × α)} {key : κ} {value : α}

/-- What is found under a key is an entry. -/
theorem mem_of_lookup (h : entries.lookup key = some value) : (key, value) ∈ entries := by
  obtain ⟨before, after, rfl, -⟩ := List.lookup_eq_some_iff.mp h
  exact List.mem_append_right before List.mem_cons_self

/-- If nothing is found under a key, no entry has it. -/
theorem notMem_keys_of_lookup (h : entries.lookup key = none) : key ∉ entries.map Prod.fst := by
  intro hmem
  obtain ⟨entry, hentry, rfl⟩ := List.mem_map.mp hmem
  exact bne_iff_ne.mp (List.lookup_eq_none_iff.mp h entry hentry) rfl

/-- Among entries with different keys, every entry is found by its key. -/
theorem lookup_eq_some_of_mem (hkeys : (entries.map Prod.fst).Nodup)
    (h : (key, value) ∈ entries) : entries.lookup key = some value := by
  cases hfound : entries.lookup key with
  | none => exact absurd (List.mem_map_of_mem (f := Prod.fst) h) (notMem_keys_of_lookup hfound)
  | some other =>
    have hsame := List.inj_on_of_nodup_map hkeys (mem_of_lookup hfound) h rfl
    rw [(Prod.mk.inj hsame).2]

end MessageGateway
