/-
# Draftsman.Proofs.Magnitude -- how large the numbers of a text get

A double precision number that is read from decimal digits has a significand and an exponent
within the format (`Binary64.ofDecimal_inRange`): at the last place of a fraction, the nearest
integer has at most 53 binary digits (`Binary64.rounded_le`).  So its integer part is short
enough to be written (`Binary64.truncate_short`), as is the integer of any numeral
(`Numeral.short_of_read`).
-/
import Draftsman.Operand
import Draftsman.Proofs.Depth

namespace Draftsman

set_option autoImplicit false

/-! ## Digits -/

theorem Numeral.ofDigits_lt {digits : List Nat} (each : ∀ d ∈ digits, d < 10) :
    ofDigits digits < 10 ^ digits.length := by
  suffices bound : ∀ n, digits.foldl (fun n d => 10 * n + d) n < (n + 1) * 10 ^ digits.length by
    simpa [ofDigits] using bound 0
  induction digits with
  | nil => simp
  | cons d rest ih =>
      intro n
      obtain ⟨own, others⟩ := List.forall_mem_cons.mp each
      calc rest.foldl (fun n d => 10 * n + d) (10 * n + d)
          < (10 * n + d + 1) * 10 ^ rest.length := ih others _
        _ ≤ (10 * (n + 1)) * 10 ^ rest.length := Nat.mul_le_mul_right _ (by omega)
        _ = (n + 1) * 10 ^ (d :: rest).length := by rw [List.length_cons, Nat.pow_succ]; ring

theorem Binary64.readDigits_lt {digits : List Char} (each : ∀ c ∈ digits, c.isDigit = true) :
    readDigits digits < 10 ^ digits.length := by
  have same : readDigits digits = Numeral.ofDigits (digits.map fun c => c.toNat - '0'.toNat) := by
    rw [readDigits, Numeral.ofDigits, List.foldl_map]
  rw [same]
  refine Nat.lt_of_lt_of_eq (Numeral.ofDigits_lt fun d held => ?_) (by rw [List.length_map])
  obtain ⟨c, there, rfl⟩ := List.mem_map.mp held
  have digit := each c there
  simp only [Char.isDigit, Bool.and_eq_true, decide_eq_true_eq] at digit
  have below : c.toNat ≤ 57 := digit.2
  have zero : '0'.toNat = 48 := rfl
  omega

namespace Text

theorem digitValue?_lt {c : Char} {d : Nat} (found : digitValue? c = some d) : d < 10 := by
  unfold digitValue? at found
  split at found
  · split at found
    · rename_i digit
      simp only [Char.isDigit, Bool.and_eq_true, decide_eq_true_eq] at digit
      have below : c.toNat ≤ 57 := digit.2
      obtain rfl := Option.some.inj found
      omega
    · cases found
  · obtain ⟨first, there, rfl⟩ := Option.map_eq_some_iff.mp found
    have within := List.find?_some there
    simp only [Bool.and_eq_true, decide_eq_true_eq] at within
    omega

end Text

namespace Numeral

theorem digitRun?_lt {text : List Char} {digits : List Nat} {rest : List Char}
    (run : digitRun? text = some (digits, rest)) : ∀ d ∈ digits, d < 10 := by
  induction text generalizing digits rest with
  | nil =>
      obtain ⟨rfl, -⟩ := Prod.mk.inj (Option.some.inj run)
      simp
  | cons c text ih =>
      simp only [digitRun?] at run
      split at run
      · rename_i d value
        obtain ⟨⟨others, left⟩, later, same⟩ := Option.map_eq_some_iff.mp run
        obtain ⟨rfl, -⟩ := Prod.mk.inj same
        exact List.forall_mem_cons.mpr ⟨Text.digitValue?_lt value, ih later⟩
      · split at run
        · split at run
          · exact ih run
          · cases run
        · obtain ⟨rfl, -⟩ := Prod.mk.inj (Option.some.inj run)
          simp

theorem pow_le_tenTo {size limit : Nat} (fits : size ≤ limit) : 10 ^ size ≤ tenTo limit :=
  Nat.pow_le_pow_right (by decide) fits

/-- An integer that is smaller than a power of ten within the limit is short. -/
theorem not_tooLong_of_lt {n : Int} {size : Nat} (fits : size ≤ digitLimit)
    (small : n.natAbs < 10 ^ size) : tooLong n = false := by
  have within := pow_le_tenTo fits
  rw [tooLong, decide_eq_false_iff_not]
  omega

theorem short_of_read {text : String} {n : Int} (done : read text = .ok n) : tooLong n = false := by
  simp only [read] at done
  split at done
  · cases done
  · split at done
    · cases done
    · rename_i digits rest run
      split at done
      · cases done
      · rename_i fits
        split at done
        · cases done
        · refine not_tooLong_of_lt (Nat.not_lt.mp fits) ?_
          have small := ofDigits_lt (digitRun?_lt run)
          have same := Except.ok.inj done
          split at same <;> omega

end Numeral

/-! ## Rounding -/

namespace Binary64

def inRange : Binary64 → Bool
  | finite _ m q => m < twoTo 53 && leastExponent ≤ q && q ≤ greatestExponent
  | _ => true

theorem roundEven_le {num den bound : Nat} (small : num < den * bound) :
    roundEven num den ≤ bound := by
  have quotient : num / den < bound := Nat.div_lt_of_lt_mul small
  simp only [roundEven]
  split
  · omega
  · split <;> omega

/-- Up to the last place, a fraction has at most 53 binary digits. -/
theorem lastPlace_reaches (num : Nat) {den : Nat} (positive : 0 < den) :
    ∃ k : Nat, num * 2 ^ den.log2 < den * 2 ^ k ∧ (k : Int) ≤ lastPlace num den + 53 + den.log2 := by
  have denBelow : 2 ^ den.log2 ≤ den := Nat.log2_self_le (by omega)
  have numBelow : num < 2 ^ (num.log2 + 1) := Nat.lt_log2_self
  by_cases reached : if 0 ≤ (num.log2 : Int) - den.log2 then
      den * twoTo ((num.log2 : Int) - den.log2).toNat ≤ num
    else den ≤ num * twoTo (-((num.log2 : Int) - den.log2)).toNat
  · refine ⟨num.log2 + 1, ?_, ?_⟩
    · calc num * 2 ^ den.log2 < 2 ^ (num.log2 + 1) * 2 ^ den.log2 :=
            Nat.mul_lt_mul_of_pos_right numBelow (Nat.two_pow_pos _)
        _ ≤ 2 ^ (num.log2 + 1) * den := Nat.mul_le_mul_left _ denBelow
        _ = den * 2 ^ (num.log2 + 1) := Nat.mul_comm _ _
    · simp only [lastPlace, if_pos reached]
      omega
  · refine ⟨num.log2, ?_, ?_⟩
    · split at reached
      · rename_i above
        have gap : num.log2 = ((num.log2 : Int) - den.log2).toNat + den.log2 := by omega
        have small : num < den * 2 ^ ((num.log2 : Int) - den.log2).toNat := Nat.not_le.mp reached
        calc num * 2 ^ den.log2
            < den * 2 ^ ((num.log2 : Int) - den.log2).toNat * 2 ^ den.log2 :=
              Nat.mul_lt_mul_of_pos_right small (Nat.two_pow_pos _)
          _ = den * 2 ^ (((num.log2 : Int) - den.log2).toNat + den.log2) := by
              rw [Nat.pow_add, Nat.mul_assoc]
          _ = den * 2 ^ num.log2 := by rw [← gap]
      · rename_i below
        have gap : den.log2 = (-((num.log2 : Int) - den.log2)).toNat + num.log2 := by omega
        have small : num * 2 ^ (-((num.log2 : Int) - den.log2)).toNat < den := Nat.not_le.mp reached
        calc num * 2 ^ den.log2
            = num * 2 ^ ((-((num.log2 : Int) - den.log2)).toNat + num.log2) := by rw [← gap]
          _ = num * 2 ^ (-((num.log2 : Int) - den.log2)).toNat * 2 ^ num.log2 := by
              rw [Nat.pow_add, Nat.mul_assoc]
          _ < den * 2 ^ num.log2 := Nat.mul_lt_mul_of_pos_right small (Nat.two_pow_pos _)
    · simp only [lastPlace, if_neg reached]
      omega

/-- The nearest integer at the last place has at most 53 binary digits, or is the least with
one more. -/
theorem rounded_le (num : Nat) {den : Nat} (positive : 0 < den) :
    (if 0 ≤ lastPlace num den then roundEven num (den * twoTo (lastPlace num den).toNat)
      else roundEven (num * twoTo (-lastPlace num den).toNat) den) ≤ twoTo 53 := by
  obtain ⟨k, small, reach⟩ := lastPlace_reaches num positive
  split
  · rename_i whole
    refine roundEven_le (Nat.lt_of_mul_lt_mul_right (a := 2 ^ den.log2) ?_)
    calc num * 2 ^ den.log2 < den * 2 ^ k := small
      _ ≤ den * 2 ^ ((lastPlace num den).toNat + 53 + den.log2) :=
          Nat.mul_le_mul_left _ (Nat.pow_le_pow_right (by decide) (by omega))
      _ = den * 2 ^ (lastPlace num den).toNat * 2 ^ 53 * 2 ^ den.log2 := by
          rw [Nat.pow_add, Nat.pow_add]; ring
  · rename_i part
    refine roundEven_le (Nat.lt_of_mul_lt_mul_right (a := 2 ^ den.log2) ?_)
    calc num * 2 ^ (-lastPlace num den).toNat * 2 ^ den.log2
        = num * 2 ^ den.log2 * 2 ^ (-lastPlace num den).toNat := by ring
      _ < den * 2 ^ k * 2 ^ (-lastPlace num den).toNat :=
          Nat.mul_lt_mul_of_pos_right small (Nat.two_pow_pos _)
      _ = den * 2 ^ (k + (-lastPlace num den).toNat) := by rw [Nat.pow_add, Nat.mul_assoc]
      _ ≤ den * 2 ^ (53 + den.log2) :=
          Nat.mul_le_mul_left _ (Nat.pow_le_pow_right (by decide) (by omega))
      _ = den * 2 ^ 53 * 2 ^ den.log2 := by rw [Nat.pow_add, Nat.mul_assoc]

theorem zero_inRange (negative : Bool) : (zero negative).inRange = true := by
  simp [zero, inRange, twoTo, leastExponent, greatestExponent]

/-- A number that is too large for the format is an infinity. -/
theorem inRange_of_le (negative : Bool) {m : Nat} {q : Int} (small : m < twoTo 53)
    (least : leastExponent ≤ q) :
    (if greatestExponent < q then infinite negative else finite negative m q).inRange = true := by
  split
  · rfl
  · rename_i within
    simp only [inRange, Bool.and_eq_true, decide_eq_true_eq]
    exact ⟨⟨small, least⟩, Int.not_lt.mp within⟩

theorem ofRatio_inRange (negative : Bool) {num den : Nat} (positive : 0 < den) :
    (ofRatio negative num den).inRange = true := by
  have least : leastExponent ≤ lastPlace num den := le_max_left _ _
  have small := rounded_le num positive
  simp only [ofRatio]
  generalize (if 0 ≤ lastPlace num den then roundEven num (den * twoTo (lastPlace num den).toNat)
    else roundEven (num * twoTo (-lastPlace num den).toNat) den) = rounded at small ⊢
  by_cases zero : num = 0
  · rw [if_pos zero]
    exact zero_inRange negative
  · rw [if_neg zero]
    by_cases carry : rounded = twoTo 53
    · rw [if_pos carry]
      exact inRange_of_le negative (Nat.pow_lt_pow_right (by decide) (by decide)) (by omega)
    · rw [if_neg carry]
      exact inRange_of_le negative (by omega) least

theorem ofDecimal_inRange (negative : Bool) (coefficient : Nat) (exponent : Int) :
    (ofDecimal negative coefficient exponent).inRange = true := by
  unfold ofDecimal
  split
  · exact zero_inRange negative
  · simp only
    split
    · rfl
    · split
      · exact zero_inRange negative
      · split
        · exact ofRatio_inRange negative (by decide)
        · exact ofRatio_inRange negative (Nat.pow_pos (by decide))

end Binary64

/-! ## Integer parts -/

namespace Exact

/-- The integer part is no further from zero than the number. -/
theorem natAbs_truncate_le (c e : Int) :
    (ofScaled c e).truncate.natAbs * 10 ^ (-e).toNat ≤ c.natAbs * 10 ^ e.toNat := by
  by_cases zero : c = 0
  · subst zero
    simp [ofScaled, truncate, tenTo]
  · obtain ⟨c', places, form, value, -⟩ := exists_ofScaled zero e
    have sign := natAbs_sign_mul zero c'
    rw [form, truncate, value]
    simp only
    split
    · rename_i whole
      rw [Int.natAbs_mul, sign, Int.natAbs_natCast]
      refine Nat.le_of_eq ?_
      rw [tenTo, Nat.pow_eq, Nat.mul_assoc, Nat.mul_assoc, ← Nat.pow_add, ← Nat.pow_add]
      congr 2
      omega
    · split
      · simp
      · rename_i part _
        rw [Int.natAbs_tdiv, sign, Int.natAbs_natCast]
        have split : (-e).toNat = (-(e + places)).toNat + places := by omega
        have nothing : e.toNat = 0 := by omega
        calc c' / tenTo (-(e + places)).toNat * 10 ^ (-e).toNat
            = c' / 10 ^ (-(e + places)).toNat * 10 ^ (-(e + places)).toNat * 10 ^ places := by
              rw [split, Nat.pow_add, Nat.mul_assoc]; rfl
          _ ≤ c' * 10 ^ places := Nat.mul_le_mul_right _ (Nat.div_mul_le_self _ _)
          _ = c' * 10 ^ places * 10 ^ e.toNat := by rw [nothing, Nat.pow_zero, Nat.mul_one]

theorem natAbs_truncate_ofBinary_le (m q : Int) :
    (ofBinary m q).truncate.natAbs ≤ m.natAbs * 2 ^ q.toNat := by
  unfold ofBinary
  split
  · have bound := natAbs_truncate_le (m * twoTo q.toNat) 0
    simpa [Int.natAbs_mul, twoTo] using bound
  · rename_i part
    have bound := natAbs_truncate_le (m * fiveTo (-q).toNat) q
    have nothing : q.toNat = 0 := by omega
    rw [nothing, Nat.pow_zero, Nat.mul_one, Int.natAbs_mul, Int.natAbs_natCast] at bound
    rw [nothing, Nat.pow_zero, Nat.mul_one]
    refine Nat.le_of_mul_le_mul_right (Nat.le_trans bound ?_) (Nat.pow_pos (by decide))
    exact Nat.mul_le_mul_left _ (Nat.pow_le_pow_left (by decide) _)

end Exact

/-- The integer part of a number within the format can be written. -/
theorem Binary64.truncate_short {negative : Bool} {m : Nat} {q : Int}
    (within : (finite negative m q).inRange = true) :
    Numeral.tooLong (Exact.ofBinary (if negative then -(m : Int) else m) q).truncate = false := by
  simp only [inRange, Bool.and_eq_true, decide_eq_true_eq] at within
  obtain ⟨⟨small, -⟩, most⟩ := within
  have fits : 53 + q.toNat ≤ Numeral.digitLimit := by
    simp only [greatestExponent] at most
    simp only [Numeral.digitLimit]
    omega
  have size : (if negative then -(m : Int) else m).natAbs = m := by split <;> omega
  have bound := Exact.natAbs_truncate_ofBinary_le (if negative then -(m : Int) else m) q
  rw [size] at bound
  refine Numeral.not_tooLong_of_lt fits ?_
  calc (Exact.ofBinary (if negative then -(m : Int) else m) q).truncate.natAbs
      ≤ m * 2 ^ q.toNat := bound
    _ < 2 ^ 53 * 2 ^ q.toNat := Nat.mul_lt_mul_of_pos_right small (Nat.two_pow_pos _)
    _ = 2 ^ (53 + q.toNat) := (Nat.pow_add ..).symm
    _ ≤ 10 ^ (53 + q.toNat) := Nat.pow_le_pow_left (by decide) _

end Draftsman
