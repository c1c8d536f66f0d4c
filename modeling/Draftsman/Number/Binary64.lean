/-
# Draftsman.Number.Binary64 -- double precision numbers as exact values

A finite number is `± significand · 2 ^ exponent` with a significand below
`2 ^ 53` and a last place no finer than `2 ^ (-1074)`.  All arithmetic here is on
naturals, so every statement about these numbers is a statement about integers.

* `Binary64.ofRatio` is the nearest number to a fraction, a tie going to the even
  significand, with the two infinities beyond the range;
* `Binary64.ofDecimal` is the nearest number to `c · 10 ^ e`;
* `Binary64.shortest` gives the fewest decimal digits that read back as the same
  number, and of those the ones nearest to it;
* `Binary64.write` lays those digits out in a given style.
-/
import Draftsman.Number.Exact

namespace Draftsman

set_option autoImplicit false

/-- A double precision number, or an infinity, or not a number.  What is not a number
equals nothing but itself, and its `tag` tells one such thing from another.  All that
texts name are one thing, with tag zero. -/
inductive Binary64 where
  | nan (tag : Nat)
  /-- What is not a number and was made of a decimal that is none.  Each time that this is
  done makes another thing, so what stands at one place is never what stands at another. -/
  | made
  | infinite (negative : Bool)
  | finite (negative : Bool) (significand : Nat) (exponent : Int)
  deriving DecidableEq, Repr, Inhabited

namespace Binary64

/-- The last place of the normal numbers' significands starts here. -/
def leastExponent : Int := -1074

def greatestExponent : Int := 971

def zero (negative : Bool) : Binary64 := .finite negative 0 leastExponent

/-! ## Rounding a fraction -/

/-- The last place that the nearest number to `num / den` has: the significand
then lies in `[2 ^ 52, 2 ^ 53)`, or below it at the finest place. -/
def lastPlace (num den : Nat) : Int :=
  let gap : Int := (num.log2 : Int) - den.log2
  let reached :=
    if 0 ≤ gap then den * twoTo gap.toNat ≤ num else den ≤ num * twoTo (-gap).toNat
  max leastExponent (if reached then gap - 52 else gap - 53)

/-- The integer nearest to `num / den`, a tie going to the even one. -/
def roundEven (num den : Nat) : Nat :=
  let quotient := num / den
  let twice := 2 * (num % den)
  if twice < den then quotient
  else if den < twice then quotient + 1
  else quotient + quotient % 2

/-- The number nearest to `num / den`, for a positive `den`. -/
def ofRatio (negative : Bool) (num den : Nat) : Binary64 :=
  if num = 0 then zero negative
  else
    let place := lastPlace num den
    let rounded :=
      if 0 ≤ place then roundEven num (den * twoTo place.toNat)
      else roundEven (num * twoTo (-place).toNat) den
    let carried := if rounded = twoTo 53 then (twoTo 52, place + 1) else (rounded, place)
    if greatestExponent < carried.2 then .infinite negative
    else .finite negative carried.1 carried.2

/-- The number nearest to `coefficient · 10 ^ exponent`.  Far outside the range
the answer is known from the number of digits. -/
def ofDecimal (negative : Bool) (coefficient : Nat) (exponent : Int) : Binary64 :=
  if coefficient = 0 then zero negative
  else
    let size : Int := digitCount coefficient + exponent
    if 310 < size then .infinite negative
    else if size < -330 then zero negative
    else if 0 ≤ exponent then ofRatio negative (coefficient * tenTo exponent.toNat) 1
    else ofRatio negative coefficient (tenTo (-exponent).toNat)

/-! ## The value -/

def toExact? : Binary64 → Option Exact
  | .finite negative m q => some (Exact.ofBinary (if negative then -(m : Int) else m) q)
  | _ => none

def isZero : Binary64 → Bool
  | .finite _ m _ => m == 0
  | _ => false

/-- Whether a number is finite and an integer. -/
def isIntegral (x : Binary64) : Bool := x.toExact?.any Exact.isIntegral

/-! ## The fewest digits that read back -/

/-- The exponent of the first decimal digit of `num / den`, for positive
arguments: `10 ^ e ≤ num / den < 10 ^ (e + 1)`. -/
def leadingExponent (num den : Nat) : Int :=
  if den ≤ num then (digitCount (num / den) : Int) - 1
  else
    let places := digitCount (den / num)
    if num * tenTo (places - 1) = den then 1 - (places : Int) else -(places : Int)

/-- The reals that round to `m · 2 ^ q`, as three numerators over one denominator:
the lower end, the number itself and the upper end.  Below a power of two the
gap is half as wide. -/
def interval (m : Nat) (q : Int) : Nat × Nat × Nat × Nat :=
  let narrow := m = twoTo 52 ∧ leastExponent < q
  let low := 4 * m - (if narrow then 1 else 2)
  let shift := q - 2
  if 0 ≤ shift then
    let unit := twoTo shift.toNat
    (low * unit, 4 * m * unit, (4 * m + 2) * unit, 1)
  else (low, 4 * m, 4 * m + 2, twoTo (-shift).toNat)

/-- The point of the grid `10 ^ place` that lies in the interval and nearest to
its number, if the interval holds one of the number's two neighbours. -/
def gridPoint (bounds : Nat × Nat × Nat × Nat) (closed : Bool) (place : Int) : Option Nat :=
  let (low, mid, high, den) := bounds
  let up := if 0 ≤ place then tenTo place.toNat else 1
  let down := if 0 ≤ place then 1 else tenTo (-place).toNat
  let inside (d : Nat) : Bool :=
    let x := d * up * den
    if closed then low * down ≤ x && x ≤ high * down
    else low * down < x && x < high * down
  let below := mid * down / (up * den)
  let above := below + 1
  match inside below, inside above with
  | false, false => none
  | true, false => some below
  | false, true => some above
  | true, true =>
      let target := 2 * (mid * down)
      let middle := (below + above) * up * den
      if target < middle then some below
      else if middle < target then some above
      else some (below + below % 2)

/-- The first grid with a point, from `place` down, `fuel` grids at most.
Seventeen digits always suffice. -/
def firstGrid (bounds : Nat × Nat × Nat × Nat) (closed : Bool) :
    Nat → Int → Option (Nat × Int)
  | 0, _ => none
  | fuel + 1, place =>
      match gridPoint bounds closed place with
      | some d => some (d, place)
      | none => firstGrid bounds closed fuel (place - 1)

/-- The fewest decimal digits that read back as `m · 2 ^ q`, and the exponent of
the first of them. -/
def shortest (m : Nat) (q : Int) : List Char × Int :=
  let bounds := interval m q
  let lead := leadingExponent bounds.2.1 bounds.2.2.2
  let found := (firstGrid bounds (m % 2 == 0) 18 lead).getD (0, lead)
  let digits := Exact.ofScaled found.1 found.2
  let written := Nat.toDigits 10 digits.coefficient.natAbs
  (written, digits.exponent + written.length - 1)

/-! ## Text -/

/-- How a number is laid out: the texts of the three values that are no numbers
are the only thing in which two styles differ. -/
structure Style where
  nan : String
  infinity : String
  /-- Exponents from here are written positionally. -/
  positionalFrom : Int
  /-- Exponents from here are not. -/
  positionalTo : Int
  /-- The least number of digits of a written exponent. -/
  exponentWidth : Nat
  deriving Repr

def padZeros (width : Nat) (digits : List Char) : List Char :=
  List.replicate (width - digits.length) '0' ++ digits

/-- Digits `d₁ d₂ …` with the first at `10 ^ lead`, written out.  A whole number
keeps a point and a zero. -/
def layout (style : Style) (digits : List Char) (lead : Int) : List Char :=
  if style.positionalFrom ≤ lead ∧ lead < style.positionalTo then
    if lead < 0 then
      '0' :: '.' :: List.replicate ((-lead).toNat - 1) '0' ++ digits
    else
      let whole := lead.toNat + 1
      if digits.length ≤ whole then
        digits ++ List.replicate (whole - digits.length) '0' ++ ['.', '0']
      else digits.take whole ++ '.' :: digits.drop whole
  else
    let fraction := if digits.length ≤ 1 then [] else '.' :: digits.drop 1
    let size := padZeros style.exponentWidth (Nat.toDigits 10 lead.natAbs)
    digits.take 1 ++ fraction ++ 'e' :: (if lead < 0 then '-' else '+') :: size

def write (style : Style) : Binary64 → String
  | .nan _ | .made => style.nan
  | .infinite negative => (if negative then "-" else "") ++ style.infinity
  | .finite negative m q =>
      let body := if m = 0 then ['0', '.', '0'] else
        let digits := shortest m q
        layout style digits.1 digits.2
      (if negative then "-" else "") ++ String.ofList body

/-- Numbers in messages: positional from `0.0001` up to sixteen digits before the
point, two digits of exponent at least. -/
def plain : Style := ⟨"nan", "inf", -4, 16, 2⟩

/-! ## Reading a literal -/

def readDigits (digits : List Char) : Nat :=
  digits.foldl (fun n c => 10 * n + (c.toNat - '0'.toNat)) 0

/-- The number nearest to a literal given by its parts: the digits before and
after the point and a written exponent. -/
def ofParts (negative : Bool) (whole fraction : List Char) (exponent : Int) : Binary64 :=
  ofDecimal negative (readDigits (whole ++ fraction)) (exponent - fraction.length)

/-- Splits a leading sign off. -/
def splitSign : List Char → Bool × List Char
  | '-' :: rest => (true, rest)
  | '+' :: rest => (false, rest)
  | rest => (false, rest)

/-- The signed integer that follows the `e` of a literal, if all of it is one. -/
def readExponent? (text : List Char) : Option Int :=
  let (negative, digits) := splitSign text
  if digits.isEmpty || digits.any (fun c => !c.isDigit) then none
  else some (if negative then -(readDigits digits : Int) else readDigits digits)

/-- Reads back every text that `write plain` gives. -/
def ofText? (text : String) : Option Binary64 :=
  let (negative, body) := splitSign text.toList
  if body = plain.nan.toList then some (.nan 0)
  else if body = plain.infinity.toList then some (.infinite negative)
  else
    let whole := body.takeWhile Char.isDigit
    let afterWhole := body.dropWhile Char.isDigit
    let (fraction, rest) := match afterWhole with
      | '.' :: more => (more.takeWhile Char.isDigit, more.dropWhile Char.isDigit)
      | more => ([], more)
    if whole.isEmpty && fraction.isEmpty then none
    else match rest with
      | [] => some (ofParts negative whole fraction 0)
      | 'e' :: more => (readExponent? more).map (ofParts negative whole fraction)
      | _ => none

end Binary64

end Draftsman
