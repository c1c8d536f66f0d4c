/-
# Draftsman.Proofs.Depth -- the limit on nesting

The limit on the depth of a description may be any number; it is compared with a depth in
normal form, by the number of digits where that decides.  For a limit that is an integer
this is the order of integers (`below_ofInt`), so that the depths beyond the limit are
refused and no others (`allow_int`).  Whatever the limit, a depth that it allows is allowed with
all above it (`allow_mono`).
-/
import Draftsman.Proofs.Steps
import Mathlib.Algebra.Order.Ring.Nat
import Mathlib.Tactic.Ring

namespace Draftsman

set_option autoImplicit false

namespace Exact

/-- Moving factors of ten to the exponent keeps the number. -/
theorem shed_value {fuel c c' : Nat} {e e' : Int} (moved : shed fuel c e = (c', e')) :
    ∃ places : Nat, e' = e + places ∧ c = c' * 10 ^ places := by
  induction fuel generalizing c e with
  | zero =>
      obtain ⟨rfl, rfl⟩ := Prod.mk.inj moved
      exact ⟨0, by simp, by simp⟩
  | succ fuel ih =>
      rw [shed] at moved
      split at moved
      · rename_i whole
        obtain ⟨places, exponent, tenth⟩ := ih moved
        refine ⟨places + 1, by rw [exponent]; push_cast; ring, ?_⟩
        have split := Nat.div_add_mod c 10
        rw [whole, tenth] at split
        rw [← split]
        ring
      · obtain ⟨rfl, rfl⟩ := Prod.mk.inj moved
        exact ⟨0, by simp, by simp⟩

/-- With as much fuel as the coefficient is large, all factors of ten are moved. -/
theorem shed_stops {fuel c c' : Nat} {e e' : Int} (positive : 0 < c) (enough : c ≤ fuel)
    (moved : shed fuel c e = (c', e')) : c' % 10 ≠ 0 := by
  induction fuel generalizing c e with
  | zero => omega
  | succ fuel ih =>
      rw [shed] at moved
      split at moved
      · exact ih (by omega) (by omega) moved
      · rename_i unfit
        obtain ⟨rfl, -⟩ := Prod.mk.inj moved
        exact unfit

/-- What is not zero has a normal form without a factor of ten in its coefficient. -/
theorem exists_ofScaled {c : Int} (other : c ≠ 0) (e : Int) :
    ∃ c' places : Nat, ofScaled c e = ⟨c.sign * c', e + places⟩ ∧
      c.natAbs = c' * 10 ^ places ∧ c' % 10 ≠ 0 := by
  obtain ⟨c', e', moved⟩ : ∃ c' e', shed c.natAbs c.natAbs e = (c', e') := ⟨_, _, rfl⟩
  obtain ⟨places, rfl, size⟩ := shed_value moved
  refine ⟨c', places, ?_, size, shed_stops (by omega) (Nat.le_refl _) moved⟩
  simp only [ofScaled, if_neg other, moved]

theorem natAbs_sign_mul {c : Int} (other : c ≠ 0) (n : Nat) : (c.sign * n).natAbs = n := by
  rw [Int.natAbs_mul, Int.natAbs_sign_of_ne_zero other, Nat.one_mul, Int.natAbs_natCast]

/-- The normal form of an integer other than zero. -/
theorem ofInt_eq {n : Int} (other : n ≠ 0) :
    ∃ c places : Nat, ofInt n = ⟨n.sign * c, places⟩ ∧ n.natAbs = c * 10 ^ places := by
  obtain ⟨c, places, form, value, -⟩ := exists_ofScaled other 0
  rw [Int.zero_add] at form
  exact ⟨c, places, form, value⟩

theorem digitCount_le_iff {n k : Nat} (some : 0 < k) : digitCount n ≤ k ↔ n < 10 ^ k :=
  Nat.length_toDigits_le_iff (by decide) some

/-- A number with fewer digits than another is smaller. -/
theorem lt_of_digitCount_lt {d c places : Nat} (positive : 0 < c)
    (fewer : digitCount d < digitCount c + places) : d < c * 10 ^ places := by
  have some : 0 < digitCount d := Nat.length_toDigits_pos
  have small : d < 10 ^ digitCount d := (digitCount_le_iff some).mp (Nat.le_refl _)
  rcases Nat.lt_or_ge places (digitCount d) with more | enough
  · -- the digits of `d` beyond the places are fewer than those of `c`
    have large : 10 ^ (digitCount d - places) ≤ c := by
      by_contra less
      have atMost := (digitCount_le_iff (n := c) (by omega : 0 < digitCount d - places)).mpr
        (by omega)
      omega
    calc d < 10 ^ digitCount d := small
      _ = 10 ^ (digitCount d - places) * 10 ^ places := by rw [← Nat.pow_add]; congr 1; omega
      _ ≤ c * 10 ^ places := Nat.mul_le_mul_right _ large
  · calc d < 10 ^ digitCount d := small
      _ ≤ 10 ^ places := Nat.pow_le_pow_right (by decide) enough
      _ ≤ c * 10 ^ places := Nat.le_mul_of_pos_left _ positive

/-- The integer order, read off normal forms. -/
theorem below_ofInt (n : Int) (d : Nat) : (ofInt n).below d = decide (n < d) := by
  by_cases zero : n = 0
  · subst zero
    simp [ofInt, ofScaled, below]
  · obtain ⟨c, places, form, value⟩ := ofInt_eq zero
    have positive : 0 < c := by
      rcases Nat.eq_zero_or_pos c with rfl | positive
      · simp only [Nat.zero_mul, Int.natAbs_eq_zero] at value
        exact absurd value zero
      · exact positive
    rw [form]
    rcases lt_or_gt_of_ne zero with negative | greater
    · -- a negative limit is below every depth
      have sign : n.sign = -1 := Int.sign_eq_neg_one_of_neg negative
      have smaller : n < d := by omega
      simp only [below, sign]
      rw [if_pos (by omega)]
      simp only [smaller, decide_true, Bool.or_eq_true, decide_eq_true_eq]
      right
      omega
    · have sign : n.sign = 1 := Int.sign_eq_one_of_pos greater
      have whole : (n : Int) = ((c * 10 ^ places : Nat) : Int) := by omega
      simp only [below, sign, one_mul, Int.natAbs_natCast]
      rw [if_neg (by omega)]
      split
      · rename_i fewer
        have bigger : d < c * 10 ^ places := lt_of_digitCount_lt positive (by omega)
        symm
        rw [decide_eq_false_iff_not, whole]
        omega
      · have digits : 0 < digitCount c := Nat.length_toDigits_pos
        rw [if_neg (by omega), if_pos (by omega), whole]
        simp [tenTo]

theorem digitCount_mono {n m : Nat} (le : n ≤ m) : digitCount n ≤ digitCount m := by
  have some : 0 < digitCount m := Nat.length_toDigits_pos
  have small : m < 10 ^ digitCount m := (digitCount_le_iff some).mp (Nat.le_refl _)
  exact (digitCount_le_iff some).mpr (by omega)

/-- What is beyond a limit stays so as it grows. -/
theorem below_mono {x : Exact} {n m : Nat} (le : n ≤ m) (beyond : x.below n = true) :
    x.below m = true := by
  have digits := digitCount_mono le
  simp only [below] at beyond ⊢
  split at beyond
  · rename_i notPositive
    rw [if_pos notPositive]
    simp only [Bool.or_eq_true, decide_eq_true_eq] at beyond ⊢
    omega
  · rename_i positive
    rw [if_neg positive]
    split at beyond
    · cases beyond
    · rw [if_neg (by omega)]
      split at beyond
      · rename_i fraction
        rw [if_pos fraction]
        simp only [decide_eq_true_eq] at beyond ⊢
        omega
      · rename_i whole
        rw [if_neg whole]
        split at beyond
        · rename_i integral
          rw [if_pos integral]
          simp only [decide_eq_true_eq] at beyond ⊢
          omega
        · rename_i broken
          rw [if_neg broken]
          simp only [decide_eq_true_eq] at beyond ⊢
          have more : (n : Int) * tenTo (-x.exponent).toNat ≤ m * tenTo (-x.exponent).toNat :=
            Int.mul_le_mul_of_nonneg_right (by omega) (by omega)
          omega

end Exact

/-- A limit that allows a depth allows those above it. -/
theorem Options.allow_mono {o : Options} {outer inner : Nat} (le : outer ≤ inner)
    (allowed : o.allow inner = .ok ()) : o.allow outer = .ok () := by
  simp only [Options.allow] at allowed ⊢
  split at allowed
  · cases allowed
  · rename_i limit
    split at allowed
    · cases allowed
    · rename_i within
      exact if_neg fun beyond => within (Exact.below_mono le beyond)
  · split at allowed
    · cases allowed
    · rename_i positive
      exact if_neg positive
  · exact allowed

/-- A limit that is an integer refuses the depths beyond it and no others. -/
theorem Options.allow_int {o : Options} {limit : Int} (limited : o.maxDepth = .int limit)
    (depth : Nat) :
    fault? (o.allow depth) =
      if limit < depth then some (.tooDeep depth (.int limit)) else none := by
  simp only [Options.allow, limited, Value.quantity?, Exact.below_ofInt, decide_eq_true_eq]
  split <;> rfl

end Draftsman
