/-
# Draftsman.Number.Exact -- one normal form for every finite number

Integers, binary fractions and decimal fractions all have a finite decimal
expansion.  `Exact` writes such a number as `coefficient · 10 ^ exponent` with no
factor of ten left in the coefficient, so two numbers of any origin are equal
exactly when their normal forms are the same pair.

* `Exact.ofScaled c e` is the normal form of `c · 10 ^ e`;
* `Exact.ofBinary m q` is the normal form of `m · 2 ^ q`;
* a normal form is an integer exactly when its exponent is not negative.
-/

namespace Draftsman

set_option autoImplicit false

def twoTo (n : Nat) : Nat := Nat.pow 2 n

def fiveTo (n : Nat) : Nat := Nat.pow 5 n

def tenTo (n : Nat) : Nat := Nat.pow 10 n

theorem tenTo_pos (n : Nat) : 0 < tenTo n := Nat.pow_pos (by decide)

/-- The number of decimal digits of a natural number; zero has one. -/
def digitCount (n : Nat) : Nat := (Nat.toDigits 10 n).length

/-- A finite number `coefficient · 10 ^ exponent`.  In normal form the
coefficient has no factor of ten, and zero is `0 · 10 ^ 0`. -/
structure Exact where
  coefficient : Int
  exponent : Int
  deriving DecidableEq, Repr, Inhabited

namespace Exact

/-- Moves factors of ten from the coefficient to the exponent, `fuel` of them at
most.  A coefficient never has more than itself. -/
def shed : Nat → Nat → Int → Nat × Int
  | 0, c, e => (c, e)
  | fuel + 1, c, e => if c % 10 = 0 then shed fuel (c / 10) (e + 1) else (c, e)

/-- The normal form of `c · 10 ^ e`. -/
def ofScaled (c e : Int) : Exact :=
  if c = 0 then ⟨0, 0⟩
  else
    let r := shed c.natAbs c.natAbs e
    ⟨c.sign * r.1, r.2⟩

def ofInt (n : Int) : Exact := ofScaled n 0

/-- The normal form of `m · 2 ^ q`: a negative power of two is that power of five
over the same power of ten. -/
def ofBinary (m q : Int) : Exact :=
  if 0 ≤ q then ofScaled (m * twoTo q.toNat) 0 else ofScaled (m * fiveTo (-q).toNat) q

def isIntegral (x : Exact) : Bool := 0 ≤ x.exponent

/-- The integer part, toward zero.  A number whose last place lies beyond its
first digit is smaller than one, so its power of ten is not worked out. -/
def truncate (x : Exact) : Int :=
  if 0 ≤ x.exponent then x.coefficient * tenTo x.exponent.toNat
  else if digitCount x.coefficient.natAbs < (-x.exponent).toNat then 0
  else Int.tdiv x.coefficient (tenTo (-x.exponent).toNat)

/-- Whether the natural number `n` is greater than `x`.  The number of digits
decides wherever it can, so that no huge power of ten is worked out. -/
def below (x : Exact) (n : Nat) : Bool :=
  if x.coefficient ≤ 0 then 0 < n || x.coefficient < 0
  else
    let size : Int := digitCount x.coefficient.natAbs + x.exponent
    if digitCount n < size then false
    else if size ≤ 0 then 0 < n
    else if 0 ≤ x.exponent then x.coefficient * tenTo x.exponent.toNat < n
    else x.coefficient < n * tenTo (-x.exponent).toNat

end Exact

end Draftsman
