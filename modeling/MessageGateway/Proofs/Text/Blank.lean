import Mathlib.Data.List.TakeWhile
import MessageGateway.Text.Blank

/-!
# Stripping

Stripping takes away what has the property at both ends of a text, however much of it there is, and
nothing of a text without such characters.

## Main results

* `MessageGateway.stripWhile_eq_self`, `MessageGateway.stripWhile_append`,
  `MessageGateway.stripWhile_eq_nil`.
-/

namespace MessageGateway

variable {p : Char → Bool} {before cs after : List Char}

/-- Nothing is stripped where no character has the property. -/
theorem stripWhile_eq_self (h : ∀ c ∈ cs, p c = false) : stripWhile p cs = cs := by
  have hdrop : ∀ ds : List Char, (∀ c ∈ ds, p c = false) → ds.dropWhile p = ds
    | [], _ => rfl
    | d :: ds, hd => List.dropWhile_cons_of_neg (by simp [hd d List.mem_cons_self])
  rw [stripWhile, hdrop cs h, hdrop cs.reverse fun c hc => h c (List.mem_reverse.mp hc),
    List.reverse_reverse]

/-- What surrounds a text and has the property makes no difference. -/
theorem stripWhile_append (hbefore : ∀ c ∈ before, p c = true) (hafter : ∀ c ∈ after, p c = true) :
    stripWhile p (before ++ cs ++ after) = stripWhile p cs := by
  have hreverse : ∀ c ∈ after.reverse, p c = true := fun c hc => hafter c (List.mem_reverse.mp hc)
  have hnil : after.dropWhile p = [] := List.dropWhile_eq_nil_iff.mpr hafter
  rw [stripWhile, stripWhile, List.append_assoc, List.dropWhile_append_of_pos hbefore,
    List.dropWhile_append]
  split
  · rename_i hempty
    rw [hnil, List.isEmpty_iff.mp hempty]
  · rw [List.reverse_append, List.dropWhile_append_of_pos hreverse]

/-- Nothing is left of a text where all characters have the property. -/
theorem stripWhile_eq_nil (h : ∀ c ∈ cs, p c = true) : stripWhile p cs = [] := by
  rw [stripWhile, List.dropWhile_eq_nil_iff.mpr h]
  rfl

end MessageGateway
