/-
# Draftsman.Proofs.Integrality -- which decimals are integers

That `2.00` and `1E+3` are integers and `0.5` is none does not show in the coefficient or in the
exponent alone.  The normal form tells it: it is the same rational number (`value_ofScaled`), and
no factor of ten is left in its coefficient (`shed_stops`).  So a normal form with a negative
exponent is a proper fraction (`isIntegral_ofScaled`), and the integer part of any other is the
number itself (`value_truncate`).  No step of this goes through a double precision number.

* `toNumber_of_toRat?`: a finite decimal becomes an integer exactly if it is one, and that one;
* `toItems_eq_ok`: the items of a collection are converted each on its own, in order.
-/
import Draftsman.Operand
import Draftsman.Proofs.Depth
import Mathlib.Algebra.Order.Field.Rat
import Mathlib.Data.Rat.Cast.Order
import Mathlib.Tactic.FieldSimp
import Mathlib.Tactic.NormNum

namespace Draftsman

set_option autoImplicit false

/-! ## Normal forms -/

namespace Exact

def value (x : Exact) : ℚ := x.coefficient * 10 ^ x.exponent

/-- The normal form is the same number. -/
theorem value_ofScaled (c e : Int) : (ofScaled c e).value = c * 10 ^ e := by
  by_cases zero : c = 0
  · subst zero
    simp [ofScaled, value]
  · obtain ⟨c', places, form, size, -⟩ := exists_ofScaled zero e
    have whole : c.sign * (c' * 10 ^ places : Nat) = c := by
      rw [← size]
      exact Int.sign_mul_natAbs c
    calc (ofScaled c e).value
        = ((c.sign * c' : Int) : ℚ) * 10 ^ (e + places : Int) := by rw [form]; rfl
      _ = ((c.sign * (c' * 10 ^ places : Nat) : Int) : ℚ) * 10 ^ e := by
          rw [zpow_add₀ (by norm_num), zpow_natCast]
          push_cast
          ring
      _ = c * 10 ^ e := by rw [whole]

/-- A number with a negative exponent is an integer only if the power of ten divides the
coefficient. -/
theorem dvd_of_value {x : Exact} {n : Int} (fraction : x.exponent < 0) (same : x.value = n) :
    (10 : Int) ∣ x.coefficient := by
  obtain ⟨places, negative⟩ : ∃ places : Nat, x.exponent = -((places + 1 : Nat) : Int) :=
    ⟨(-x.exponent - 1).toNat, by omega⟩
  have scaled : (x.coefficient : ℚ) = n * 10 ^ (places + 1) := by
    rw [← same, value, negative, zpow_neg, zpow_natCast]
    field_simp
  have product : x.coefficient = n * 10 ^ (places + 1) := by exact_mod_cast scaled
  rw [product, pow_succ, ← mul_assoc]
  exact Int.dvd_mul_left _ _

/-- The integer part of an integer is the integer. -/
theorem value_truncate {x : Exact} (integral : x.isIntegral = true) : x.value = x.truncate := by
  have whole : 0 ≤ x.exponent := by simpa [isIntegral] using integral
  have power : (10 : ℚ) ^ x.exponent = (10 ^ x.exponent.toNat : Nat) := by
    rw [← Int.toNat_of_nonneg whole, zpow_natCast]
    push_cast
    rfl
  rw [value, truncate, if_pos whole, power, tenTo, Nat.pow_eq]
  push_cast
  rfl

/-- A normal form shows whether a number is an integer. -/
theorem isIntegral_ofScaled (c e : Int) :
    (ofScaled c e).isIntegral = true ↔ ∃ n : Int, (c * 10 ^ e : ℚ) = n := by
  rw [← value_ofScaled]
  constructor
  · intro integral
    exact ⟨(ofScaled c e).truncate, value_truncate integral⟩
  · rintro ⟨n, same⟩
    by_contra fraction
    have negative : (ofScaled c e).exponent < 0 := by simpa [isIntegral] using fraction
    by_cases zero : c = 0
    · subst zero
      simp [ofScaled] at negative
    · obtain ⟨c', places, form, -, unfit⟩ := exists_ofScaled zero e
      have tenth := dvd_of_value negative same
      rw [form] at tenth
      have divides : 10 ∣ c' := by
        rw [← natAbs_sign_mul zero c']
        exact Int.natAbs_dvd_natAbs.mpr tenth
      omega

end Exact

/-! ## Decimals -/

namespace Decimal

def toRat? : Decimal → Option ℚ
  | .finite negative c e => some ((if negative then -(c : ℚ) else c) * 10 ^ e)
  | _ => none

theorem exists_finite {d : Decimal} {q : ℚ} (finite : d.toRat? = some q) :
    ∃ negative c e, d = .finite negative c e ∧
      q = (if negative then -(c : Int) else c : Int) * 10 ^ e := by
  cases d with
  | finite negative c e =>
      refine ⟨negative, c, e, rfl, ?_⟩
      rw [← Option.some.inj finite]
      cases negative <;> simp
  | infinite _ => cases finite
  | nan _ _ _ _ => cases finite

/-- The normal form of a decimal is its rational number, and shows whether that is an integer. -/
theorem exists_toExact? {d : Decimal} {q : ℚ} (finite : d.toRat? = some q) :
    ∃ x, d.toExact? = some x ∧ x.value = q ∧ (x.isIntegral = true ↔ ∃ n : Int, q = n) := by
  obtain ⟨negative, c, e, rfl, rfl⟩ := exists_finite finite
  exact ⟨_, rfl, Exact.value_ofScaled _ e, Exact.isIntegral_ofScaled _ e⟩

end Decimal

namespace Operand

variable {d : Decimal} {q : ℚ} {operand : Value} {items numbers : List Value}

/-- A decimal that is an integer becomes that integer. -/
theorem toNumber_of_integer {n : Int} (finite : d.toRat? = some (n : ℚ)) :
    toNumber (.decimal d) = .ok (.int n) := by
  obtain ⟨x, form, same, integral⟩ := Decimal.exists_toExact? finite
  have whole : x.isIntegral = true := integral.mpr ⟨n, rfl⟩
  have part : x.truncate = n := by
    have cast : (x.truncate : ℚ) = n := (Exact.value_truncate whole).symm.trans same
    exact_mod_cast cast
  rw [toNumber, numberOfDecimal, form, Option.filter_some, if_pos whole, ← part]

/-- A finite decimal that is no integer becomes a double precision number. -/
theorem toNumber_of_fraction (finite : d.toRat? = some q) (fraction : ∀ n : Int, q ≠ n) :
    ∃ x, toNumber (.decimal d) = .ok (.float x) := by
  obtain ⟨x, form, -, integral⟩ := Decimal.exists_toExact? finite
  have part : ¬x.isIntegral = true := by
    intro whole
    obtain ⟨n, same⟩ := integral.mp whole
    exact fraction n same
  obtain ⟨negative, c, e, rfl, -⟩ := Decimal.exists_finite finite
  refine ⟨Binary64.ofDecimal negative c e, ?_⟩
  rw [toNumber, numberOfDecimal, form, Option.filter_some, if_neg part]
  rfl

/-- What a rational number is written as: as an integer exactly if it is one, and as that one. -/
structure WrittenAs (q : ℚ) (v : Value) : Prop where
  integer_iff : (∃ n : Int, v = .int n) ↔ ∃ n : Int, q = n
  exact {n : Int} (written : v = .int n) : q = n

theorem toNumber_of_toRat? (finite : d.toRat? = some q) :
    ∃ v, toNumber (.decimal d) = .ok v ∧ WrittenAs q v := by
  by_cases whole : ∃ n : Int, q = n
  · obtain ⟨n, rfl⟩ := whole
    refine ⟨.int n, toNumber_of_integer finite, ⟨fun _ => ⟨n, rfl⟩, fun _ => ⟨n, rfl⟩⟩, ?_⟩
    intro m written
    rw [Value.int.inj written]
  · have fraction : ∀ n : Int, q ≠ n := fun n same => whole ⟨n, same⟩
    obtain ⟨x, done⟩ := toNumber_of_fraction finite fraction
    refine ⟨.float x, done, ⟨?_, fun integer => absurd integer whole⟩, ?_⟩
    · rintro ⟨n, written⟩
      cases written
    · intro n written
      cases written

/-- Only a signaling decimal does not become a number. -/
theorem toNumber_isOk {v : Value} (quiet : v.isSignaling = false) :
    ∃ number, toNumber v = .ok number := by
  cases v with
  | decimal d =>
      rw [toNumber, numberOfDecimal]
      cases integral : d.toExact?.filter Exact.isIntegral with
      | some x => exact ⟨_, rfl⟩
      | none =>
          cases d with
          | nan signaling _ _ _ =>
              rw [show signaling = false from quiet]
              exact ⟨_, rfl⟩
          | finite _ _ _ => exact ⟨_, rfl⟩
          | infinite _ => exact ⟨_, rfl⟩
  | _ => exact ⟨_, rfl⟩

/-! ## Collections -/

/-- The items of a collection are converted one by one, in order. -/
theorem toItems_eq_ok (offered : operand.items? = some items) :
    toItems operand = .ok numbers ↔
      List.Forall₂ (fun item number => toNumber item = .ok number) items numbers := by
  rw [toItems, offered]
  exact toNumbers_eq_ok

/-- What is no signaling decimal can be converted, each of several on its own. -/
theorem exists_numbers (quiet : ∀ item ∈ items, item.isSignaling = false) :
    ∃ numbers, List.Forall₂ (fun item number => toNumber item = .ok number) items numbers := by
  induction items with
  | nil => exact ⟨[], .nil⟩
  | cons item rest ih =>
      obtain ⟨own, others⟩ := List.forall_mem_cons.mp quiet
      obtain ⟨number, done⟩ := toNumber_isOk own
      obtain ⟨numbers, later⟩ := ih others
      exact ⟨number :: numbers, .cons done later⟩

/-- A finite decimal becomes an integer exactly if its rational number is one, and then that one.
The items of a collection are converted each on its own, all of them and in order.  So bounds that
are integers stay in order. -/
theorem toNumber_exact :
    (∀ {d : Decimal} {q : ℚ}, d.toRat? = some q →
      ∃ v, toNumber (.decimal d) = .ok v ∧ WrittenAs q v) ∧
    (∀ {operand : Value} {items : List Value}, operand.items? = some items →
      (∀ {numbers}, toItems operand = .ok numbers ↔
        List.Forall₂ (fun item number => toNumber item = .ok number) items numbers) ∧
      ((∀ item ∈ items, item.isSignaling = false) →
        ∃ numbers, toItems operand = .ok numbers ∧ numbers.length = items.length)) ∧
    ∀ {a b : Decimal} {p q : ℚ}, a.toRat? = some p → b.toRat? = some q → p ≤ q →
      (∃ m : Int, p = m) → (∃ n : Int, q = n) →
        ∃ m n : Int, toNumber (.decimal a) = .ok (.int m) ∧
          toNumber (.decimal b) = .ok (.int n) ∧ m ≤ n := by
  refine ⟨toNumber_of_toRat?, fun offered => ⟨toItems_eq_ok offered, fun quiet => ?_⟩, ?_⟩
  · obtain ⟨numbers, each⟩ := exists_numbers quiet
    exact ⟨numbers, (toItems_eq_ok offered).mpr each, each.length_eq.symm⟩
  · rintro a b _ _ finite finite' le ⟨m, rfl⟩ ⟨n, rfl⟩
    refine ⟨m, n, toNumber_of_integer finite, toNumber_of_integer finite', ?_⟩
    exact_mod_cast le

/-- The price `2.00`. -/
def twoEach : Decimal := .finite false 200 (-2)

/-- The price `1E+3`. -/
def thousandEach : Decimal := .finite false 1 3

/-- A discount of `0.5`, as a negative price. -/
def halfOff : Decimal := .finite true 5 (-1)

theorem toNumber_exact_prices :
    (∃ v, toNumber (.decimal halfOff) = .ok v ∧ WrittenAs (-1 / 2) v) ∧
      (∃ numbers, toItems (.list [.decimal twoEach, .str "free", .decimal halfOff]) = .ok numbers ∧
        numbers.length = [Value.decimal twoEach, .str "free", .decimal halfOff].length) ∧
      ∃ m n : Int, toNumber (.decimal twoEach) = .ok (.int m) ∧
        toNumber (.decimal thousandEach) = .ok (.int n) ∧ m ≤ n := by
  have half : halfOff.toRat? = some (-1 / 2) := by norm_num [halfOff, Decimal.toRat?]
  have two : twoEach.toRat? = some 2 := by norm_num [twoEach, Decimal.toRat?]
  have thousand : thousandEach.toRat? = some 1000 := by norm_num [thousandEach, Decimal.toRat?]
  obtain ⟨single, several, ordered⟩ := toNumber_exact
  refine ⟨single half, (several rfl).2 (by decide), ?_⟩
  exact ordered two thousand (by norm_num) ⟨2, by norm_num⟩ ⟨1000, by norm_num⟩

/-- No double precision number lies between the digits and the integer. -/
example : toNumber (.decimal (.finite false 90071992547409930 (-1))) =
    .ok (.int 9007199254740993) := rfl

end Operand

end Draftsman
