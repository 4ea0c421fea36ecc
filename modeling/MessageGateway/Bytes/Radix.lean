/-!
# Digits in a base

The digits of a natural number in a base, least significant first and without a leading zero
(`Radix.digits`), and the number that a list of digits stands for (`Radix.value`).

## Main definitions

* `MessageGateway.Radix.digits`, `MessageGateway.Radix.value`.

## Main results

* `MessageGateway.Radix.value_digits` — the digits of a number stand for it.
-/

namespace MessageGateway

namespace Radix

/-- The digits of `n` in the base, least significant first; zero has none. At most `count` of them
are given, which is all of them when `n < base ^ count`. -/
def digits (base : Nat) : Nat → Nat → List Nat
  | 0, _ => []
  | count + 1, n => if n = 0 then [] else n % base :: digits base count (n / base)

/-- The number with the given digits, least significant first. -/
def value (base : Nat) : List Nat → Nat
  | [] => 0
  | d :: ds => d + base * value base ds

/-- The digits of a number stand for it, as soon as there is room for all of them. -/
theorem value_digits {base count n : Nat} (h : n < base ^ count) :
    value base (digits base count n) = n := by
  induction count generalizing n with
  | zero => simp at h; simp [digits, value, h]
  | succ count ih =>
    by_cases hn : n = 0
    · simp [digits, value, hn]
    · have hlt : n / base < base ^ count := by
        rw [Nat.pow_succ, Nat.mul_comm] at h
        exact Nat.div_lt_of_lt_mul h
      simp [digits, value, hn, ih hlt, Nat.mod_add_div]

end Radix

end MessageGateway
