/-
# Draftsman.Value.Equality -- when two values count as the same

Numbers are compared by value, whatever their kind: one, `1.0`, the decimal `1`
and the truth value true are the same.  What is not a number differs from
everything but itself.  A primitive is the same as its name.  Lists and tuples differ
even where their elements agree; the order of a dictionary's members does not matter.

What a conversion has made and is not a number is another thing at every place.  So of two
values at different places that hold such a thing, neither is the same as the other.

A signaling decimal cannot be compared with another number.  A comparison that comes
upon such a pair has no result; one that is settled before has.

* `Value.equal` decides the relation, for what may be one and the same thing;
* `Value.equalApart` decides it for what stands at two places;
* `Value.clashes` tells when a comparison has no result;
* `Value.same?` is the comparison with its three outcomes;
* `Quantity` is the number behind a value, with `Quantity.equal` on it.
-/
import Draftsman.Value

namespace Draftsman

set_option autoImplicit false

/-- The number behind a value. -/
inductive Quantity where
  | finite (x : Exact)
  | infinite (negative : Bool)
  | nan
  deriving DecidableEq, Repr

namespace Quantity

/-- Two numbers are equal when they are the same, unless they are none. -/
def equal : Quantity → Quantity → Bool
  | .finite x, .finite y => x == y
  | .infinite a, .infinite b => a == b
  | _, _ => false

end Quantity

namespace Binary64

def quantity : Binary64 → Quantity
  | .nan _ | .made => .nan
  | .infinite negative => .infinite negative
  | .finite negative m q => .finite (Exact.ofBinary (if negative then -(m : Int) else m) q)

end Binary64

namespace Decimal

def quantity : Decimal → Quantity
  | .finite negative c e => .finite (Exact.ofScaled (if negative then -(c : Int) else c) e)
  | .infinite negative => .infinite negative
  | .nan _ _ _ _ => .nan

end Decimal

namespace Value

/-- The number behind a value: truth values count as zero and one. -/
def quantity? : Value → Option Quantity
  | bool b => some (.finite (Exact.ofInt (if b then 1 else 0)))
  | int n => some (.finite (Exact.ofInt n))
  | float x => some x.quantity
  | decimal d => some d.quantity
  | _ => none

/-- Equality of values that hold no others. -/
def atomEqual (a b : Value) : Bool :=
  match a, b with
  | null, null => true
  | float (.nan s), float (.nan t) => s == t
  | float .made, float .made => true
  | decimal (.nan a b c s), decimal (.nan d e f t) => (a, b, c, s) == (d, e, f, t)
  | host c, host d => c == d
  | pattern p, pattern q => p == q
  | _, _ =>
      match a.text?, b.text?, a.quantity?, b.quantity? with
      | some s, some t, _, _ => s == t
      | _, _, some x, some y => x.equal y
      | _, _, _, _ => false

mutual

/-- Whether two values count as the same. -/
def equal : Value → Value → Bool
  | list xs, b => match b with
      | list ys => allEqual xs ys
      | _ => false
  | tuple xs, b => match b with
      | tuple ys => allEqual xs ys
      | _ => false
  | set xs, b => match b with
      | set ys => xs.length == ys.length && allFound xs ys
      | _ => false
  | dict xs, b => match b with
      | dict ys => xs.length == ys.length && allHeld xs ys
      | _ => false
  | a, b => atomEqual a b
termination_by structural a => a

def allEqual : List Value → List Value → Bool
  | [], [] => true
  | x :: xs, y :: ys => equal x y && allEqual xs ys
  | _, _ => false
termination_by structural a => a

def allFound : List Value → List Value → Bool
  | [], _ => true
  | x :: xs, ys => ys.any (equal x) && allFound xs ys
termination_by structural a => a

def allHeld : List (Value × Value) → List (Value × Value) → Bool
  | [], _ => true
  | (k, v) :: rest, ys => ys.any (fun y => equal k y.1 && equal v y.2) && allHeld rest ys
termination_by structural a => a

end

/-! ## Different places -/

mutual

/-- Whether a value holds what a conversion has made and is not a number. -/
def holdsMade : Value → Bool
  | float .made => true
  | list items | tuple items | set items => anyHoldsMade items
  | dict members => anyMemberHoldsMade members
  | _ => false

def anyHoldsMade : List Value → Bool
  | [] => false
  | v :: rest => holdsMade v || anyHoldsMade rest

def anyMemberHoldsMade : List (Value × Value) → Bool
  | [] => false
  | (k, v) :: rest => holdsMade k || holdsMade v || anyMemberHoldsMade rest

end

/-- Whether values at two places count as the same. -/
def equalApart (a b : Value) : Bool := equal a b && !holdsMade a && !holdsMade b

/-! ## Comparisons without a result -/

/-- Whether two values that hold no others cannot be compared. -/
def atomClashes (a b : Value) : Bool :=
  match a, b with
  | decimal x, decimal y => x != y && (x.isSignaling || y.isSignaling)
  | decimal x, other => x.isSignaling && other.quantity?.isSome
  | other, decimal y => y.isSignaling && other.quantity?.isSome
  | _, _ => false

mutual

/-- Whether comparing two values has no result.  Lists and dictionaries are compared
only if they are of one size, and no further than up to the first difference.  The
elements of sets can be keys, so they never clash. -/
def clashes : Value → Value → Bool
  | list xs, b => match b with
      | list ys => xs.length == ys.length && anyClash xs ys
      | _ => false
  | tuple xs, b => match b with
      | tuple ys => anyClash xs ys
      | _ => false
  | dict xs, b => match b with
      | dict ys => xs.length == ys.length && anyMemberClash xs ys
      | _ => false
  | set _, _ => false
  | a, b => atomClashes a b
termination_by structural a => a

def anyClash : List Value → List Value → Bool
  | x :: xs, y :: ys => clashes x y || (equalApart x y && anyClash xs ys)
  | _, _ => false
termination_by structural a => a

/-- Whether the members of the first list clash with those of their keys in the second
before they differ. -/
def anyMemberClash : List (Value × Value) → List (Value × Value) → Bool
  | [], _ => false
  | (k, v) :: rest, ys =>
      match ys.find? (fun y => equal k y.1) with
      | some y => clashes v y.2 || (equalApart v y.2 && anyMemberClash rest ys)
      | none => false
termination_by structural a => a

end

/-- Compares the values at two places; `none` is no result. -/
def same? (a b : Value) : Option Bool := if clashes a b then none else some (equalApart a b)

/-- A text equals the values that are that text, which a primitive can be. -/
theorem equal_str_left (s : String) (v : Value) : (str s).equal v = (v.text? == some s) := by
  cases v <;> simp [equal, atomEqual, text?, quantity?, BEq.comm]

theorem equal_str_self (s : String) : (str s).equal (str s) = true := by
  simp [equal_str_left, text?]

end Value

end Draftsman
