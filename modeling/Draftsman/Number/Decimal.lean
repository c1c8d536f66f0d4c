/-
# Draftsman.Number.Decimal -- decimal numbers that keep their last place

A decimal number is a sign, a coefficient and an exponent of ten.  `2.00` and `2`
are equal as numbers and differ in what they write, so the exponent is part of
the value.  Two kinds of not-a-number exist: a quiet one, and a signaling one
that refuses conversion and comparison.

* `Decimal.toExact?` is the number, as an `Exact` normal form;
* `Decimal.text` is the written form: positional while the point stays within six
  places of the first digit, with an exponent otherwise;
* `Decimal.ofText?` reads it back.
-/
import Draftsman.Number.Binary64

namespace Draftsman

set_option autoImplicit false

/-- A decimal number, an infinity, or not a number.  The payload of the last is
the number that it carries along, zero for none; its `tag` tells one such thing from
another. -/
inductive Decimal where
  | finite (negative : Bool) (coefficient : Nat) (exponent : Int)
  | infinite (negative : Bool)
  | nan (signaling : Bool) (negative : Bool) (payload : Nat) (tag : Nat)
  deriving DecidableEq, Repr, Inhabited

namespace Decimal

def toExact? : Decimal → Option Exact
  | .finite negative c e => some (Exact.ofScaled (if negative then -(c : Int) else c) e)
  | _ => none

def isZero : Decimal → Bool
  | .finite _ c _ => c == 0
  | _ => false

/-- Whether a decimal refuses conversion and comparison. -/
def isSignaling : Decimal → Bool
  | .nan signaling _ _ _ => signaling
  | _ => false

/-- The double precision number nearest to a decimal number.  A quiet not-a-number is made
another thing of, whatever its own tag; a signaling one has no nearest number. -/
def toBinary64? : Decimal → Option Binary64
  | .finite negative c e => some (Binary64.ofDecimal negative c e)
  | .infinite negative => some (.infinite negative)
  | .nan signaling _ _ _ => if signaling then none else some .made

/-! ## Text -/

/-- The digits of a coefficient with the point put in and, where the point would
be far from them, an exponent. -/
def layout (c : Nat) (e : Int) : List Char :=
  let digits := Nat.toDigits 10 c
  let before : Int := e + digits.length
  let point : Int := if e ≤ 0 ∧ -6 < before then before else 1
  let body :=
    if point ≤ 0 then '0' :: '.' :: List.replicate (-point).toNat '0' ++ digits
    else if (digits.length : Int) ≤ point then
      digits ++ List.replicate (point.toNat - digits.length) '0'
    else digits.take point.toNat ++ '.' :: digits.drop point.toNat
  if before = point then body
  else
    let size := before - point
    body ++ 'E' :: (if size < 0 then '-' else '+') :: Nat.toDigits 10 size.natAbs

def text : Decimal → String
  | .finite negative c e => (if negative then "-" else "") ++ String.ofList (layout c e)
  | .infinite negative => (if negative then "-" else "") ++ "Infinity"
  | .nan signaling negative payload _ =>
      (if negative then "-" else "") ++ (if signaling then "sNaN" else "NaN") ++
        (if payload = 0 then "" else String.ofList (Nat.toDigits 10 payload))

/-! ## Reading -/

def readPayload? (digits : List Char) : Option Nat :=
  if digits.any (fun c => !c.isDigit) then none else some (Binary64.readDigits digits)

/-- Reads a number with an optional point and exponent, without its sign. -/
def readFinite? (negative : Bool) (body : List Char) : Option Decimal :=
  let whole := body.takeWhile Char.isDigit
  let afterWhole := body.dropWhile Char.isDigit
  let (fraction, rest) := match afterWhole with
    | '.' :: more => (more.takeWhile Char.isDigit, more.dropWhile Char.isDigit)
    | more => ([], more)
  let value (exponent : Int) : Decimal :=
    .finite negative (Binary64.readDigits (whole ++ fraction)) (exponent - fraction.length)
  if whole.isEmpty && fraction.isEmpty then none
  else match rest with
    | [] => some (value 0)
    | 'e' :: more => (Binary64.readExponent? more).map value
    | _ => none

/-- Reads a decimal number; letters may be of either case. -/
def ofText? (text : String) : Option Decimal :=
  let (negative, body) := Binary64.splitSign (text.toList.map Char.toLower)
  if body = "infinity".toList ∨ body = "inf".toList then some (.infinite negative)
  else match body with
    | 'n' :: 'a' :: 'n' :: digits => (readPayload? digits).map (.nan false negative · 0)
    | 's' :: 'n' :: 'a' :: 'n' :: digits => (readPayload? digits).map (.nan true negative · 0)
    | _ => readFinite? negative body

end Decimal

end Draftsman
