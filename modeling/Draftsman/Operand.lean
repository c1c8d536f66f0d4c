/-
# Draftsman.Operand -- operands as document values

A predicate carries an operand of any kind; a document can hold numbers, texts,
lists and null.  This module converts one into the other.

* `toNumber`: an integral decimal becomes that integer, any other decimal the
  nearest double precision number, and every other value stays as it is;
* `toInteger`: numbers lose their fraction, texts are read as numerals;
* `toItems`: the items of a collection, with their decimals made numbers;
* `toPatternText`: the text of a pattern, or of any other value.

Only decimals, the conversion to integers, the iteration of what has no items and the
text of a very large integer can fail; `ConversionFault` says how.
-/
import Draftsman.Value.Written
import Draftsman.Members
import Draftsman.Number.Numeral
import Draftsman.Failure

namespace Draftsman

set_option autoImplicit false

inductive ConversionFault where
  /-- A text is no numeral. -/
  | badNumeral (operand : Value)
  /-- A numeral has too many digits. -/
  | tooManyDigits (digits : Nat)
  /-- A double precision not-a-number has no integer part. -/
  | floatNaN
  /-- A double precision infinity has no integer part. -/
  | floatInfinity
  /-- A decimal not-a-number has no integer part. -/
  | decimalNaN
  /-- A decimal infinity has no integer part. -/
  | decimalInfinity
  /-- A signaling not-a-number has no nearest number. -/
  | signalingNaN
  /-- An integer in a value has too many digits to be written. -/
  | unwritable
  /-- A value of this kind cannot be converted at all. -/
  | unsuited
  deriving Repr

namespace ConversionFault

def shownLimit : Nat := 200

def failure : ConversionFault → Failure
  | badNumeral operand =>
      ⟨.badValue, "invalid literal for int() with base 10: " ++
        String.ofList (operand.written.toList.take shownLimit)⟩
  | tooManyDigits digits => ⟨.badValue, Numeral.tooLongText digits⟩
  | floatNaN => ⟨.badValue, "cannot convert float NaN to integer"⟩
  | floatInfinity => ⟨.outOfRange, "cannot convert float infinity to integer"⟩
  | decimalNaN => ⟨.badValue, "cannot convert NaN to integer"⟩
  | decimalInfinity => ⟨.outOfRange, "cannot convert Infinity to integer"⟩
  | signalingNaN => ⟨.badValue, "cannot convert signaling NaN to float"⟩
  | unwritable => .unshown
  | unsuited => ⟨.wrongType, ""⟩

end ConversionFault

namespace Operand

/-- The number of a decimal: an integer if it is one, else the nearest double
precision number. -/
def numberOfDecimal (d : Decimal) : Except ConversionFault Value :=
  match d.toExact?.filter Exact.isIntegral, d.toBinary64? with
  | some x, _ => .ok (.int x.truncate)
  | none, some x => .ok (.float x)
  | none, none => .error .signalingNaN

/-- Decimals become numbers; all else stays as it is. -/
def toNumber : Value → Except ConversionFault Value
  | .decimal d => numberOfDecimal d
  | v => .ok v

def integerOfText (operand : Value) (text : String) : Except ConversionFault Int :=
  match Numeral.read text with
  | .ok n => .ok n
  | .error .malformed => .error (.badNumeral operand)
  | .error (.tooLong digits) => .error (.tooManyDigits digits)

/-- The integer part of a number, or the integer of a numeral. -/
def toInteger (operand : Value) : Except ConversionFault Int :=
  match operand with
  | .bool b => .ok (if b then 1 else 0)
  | .int n => .ok n
  | .float (.nan _) | .float .made => .error .floatNaN
  | .float (.infinite _) => .error .floatInfinity
  | .float (.finite negative m q) =>
      .ok (Exact.ofBinary (if negative then -(m : Int) else m) q).truncate
  | .decimal (.nan _ _ _ _) => .error .decimalNaN
  | .decimal (.infinite _) => .error .decimalInfinity
  | .decimal (.finite negative c e) =>
      .ok (Exact.ofScaled (if negative then -(c : Int) else c) e).truncate
  | .str s => integerOfText operand s
  | .primitive p => integerOfText operand p.name
  | _ => .error .unsuited

/-- Makes the decimals among some values numbers, from the first on. -/
def toNumbers : List Value → Except ConversionFault (List Value)
  | [] => .ok []
  | v :: rest =>
      (toNumber v).bind fun first => (toNumbers rest).map fun others => first :: others

/-- The items of a collection with their decimals made numbers. -/
def toItems (operand : Value) : Except ConversionFault (List Value) :=
  match operand.items? with
  | some items => toNumbers items
  | none => .error .unsuited

/-- The text of a pattern, or the bare form of any other value. -/
def toPatternText : Value → Except ConversionFault String
  | .pattern p => .ok p.render
  | v => if v.isTooLong then .error .unwritable else .ok v.bare

end Operand

end Draftsman
