/-
# Draftsman.Json.Reader -- JSON text, read with the place of the first fault

The reader takes a text apart from left to right and stops at the first fault,
which it names together with its place: line and column from one, and the number
of characters before it.  Beyond the standard it accepts `NaN`, `Infinity` and
`-Infinity`.  A repeated member takes the last value, at the first one's place.  An
escape that names half of a pair alone is kept as that half.

* `Json.read` gives the value of a text or the fault;
* `Json.readValue` reads one value off the front.  It recurses on fuel, and two units
  for each character are enough: one for a value and one for the item or member that
  it is;
* `Json.Fault.message` is the wording.
-/
import Draftsman.Members
import Draftsman.Number.Numeral
import Draftsman.Text.Encoding

namespace Draftsman.Json

set_option autoImplicit false

inductive Defect where
  | value
  | name
  | colon
  | comma
  | unterminated
  | control
  | escape
  | hexEscape
  | extra
  | byteOrderMark
  deriving DecidableEq, Repr

def Defect.text : Defect → String
  | value => "Expecting value"
  | name => "Expecting property name enclosed in double quotes"
  | colon => "Expecting ':' delimiter"
  | comma => "Expecting ',' delimiter"
  | unterminated => "Unterminated string starting at"
  | control => "Invalid control character at"
  | escape => "Invalid \\escape"
  | hexEscape => "Invalid \\uXXXX escape"
  | extra => "Extra data"
  | byteOrderMark => "Unexpected UTF-8 BOM (decode using utf-8-sig)"

/-- Why reading stops: a defect before the last `left` characters, or an integer
with too many digits. -/
inductive Stop where
  | malformed (defect : Defect) (left : Nat)
  | tooLong (digits : Nat)
  deriving DecidableEq, Repr

/-- Why a text is not read: a defect after `offset` characters, or an integer with
too many digits. -/
inductive Fault where
  | malformed (defect : Defect) (line column offset : Nat)
  | tooLong (digits : Nat)
  deriving DecidableEq, Repr

/-! ## Blanks and literals -/

/-- The four blanks between the parts of a text. -/
def isBlank (c : Char) : Bool := c == ' ' || c == '\t' || c == '\n' || c == '\r'

def skipBlanks (text : List Char) : List Char := text.dropWhile isBlank

def afterWord? : List Char → List Char → Option (List Char)
  | [], text => some text
  | c :: word, d :: text => if c = d then afterWord? word text else none
  | _ :: _, [] => none

def words : List (String × Value) :=
  [("null", .null), ("true", .bool true), ("false", .bool false), ("NaN", .float (.nan 0)),
    ("Infinity", .float (.infinite false)), ("-Infinity", .float (.infinite true))]

def readWord? (text : List Char) : Option (Value × List Char) :=
  words.findSome? fun word => (afterWord? word.1.toList text).map fun rest => (word.2, rest)

/-! ## Numbers -/

/-- The fraction digits after a point and the text after them; a point without a
digit is not part of the number. -/
def splitFraction (text : List Char) : List Char × List Char :=
  match text with
  | '.' :: rest =>
      let digits := rest.takeWhile Char.isDigit
      if digits.isEmpty then ([], text) else (digits, rest.dropWhile Char.isDigit)
  | _ => ([], text)

/-- The exponent after an `e` and the text after it; an `e` without a digit is not
part of the number. -/
def splitExponent (text : List Char) : Option Int × List Char :=
  match text with
  | [] => (none, text)
  | e :: rest =>
      if e = 'e' ∨ e = 'E' then
        let (negative, body) := Binary64.splitSign rest
        let digits := body.takeWhile Char.isDigit
        if digits.isEmpty then (none, text)
        else
          let size : Int := Binary64.readDigits digits
          (some (if negative then -size else size), body.dropWhile Char.isDigit)
      else (none, text)

/-- The digits before the point: a zero alone, or a run that starts with another
digit. -/
def splitWhole (text : List Char) : List Char × List Char :=
  match text with
  | '0' :: rest => (['0'], rest)
  | _ => (text.takeWhile Char.isDigit, text.dropWhile Char.isDigit)

/-- The number at the start of a text and the rest.  Without fraction and exponent
it is an integer. -/
def readNumber (text : List Char) : Except Stop (Value × List Char) :=
  let (negative, body) := match text with
    | '-' :: rest => (true, rest)
    | _ => (false, text)
  let (whole, afterWhole) := splitWhole body
  if whole.isEmpty then .error (.malformed .value text.length)
  else
    let (fraction, afterFraction) := splitFraction afterWhole
    let (exponent?, rest) := splitExponent afterFraction
    if fraction.isEmpty && exponent?.isNone then
      if Numeral.digitLimit < whole.length then .error (.tooLong whole.length)
      else
        let n : Int := Binary64.readDigits whole
        .ok (.int (if negative then -n else n), rest)
    else .ok (.float (Binary64.ofParts negative whole fraction (exponent?.getD 0)), rest)

/-! ## Texts -/

def hexValue? (c : Char) : Option Nat :=
  if c.isDigit then some (c.toNat - 48)
  else if 'a' ≤ c ∧ c ≤ 'f' then some (c.toNat - 87)
  else if 'A' ≤ c ∧ c ≤ 'F' then some (c.toNat - 55)
  else none

def hexNumber? (a b c d : Char) : Option Nat :=
  match hexValue? a, hexValue? b, hexValue? c, hexValue? d with
  | some a, some b, some c, some d => some (((a * 16 + b) * 16 + c) * 16 + d)
  | _, _, _, _ => none

/-- The character of a short escape. -/
def shortEscape? : Char → Option Char
  | '"' => some '"'
  | '\\' => some '\\'
  | '/' => some '/'
  | 'b' => some '\x08'
  | 'f' => some '\x0c'
  | 'n' => some '\n'
  | 'r' => some '\r'
  | 't' => some '\t'
  | _ => none

/-- Whether a number is the first half of a pair that stands for one character. -/
def isHighHalf (n : Nat) : Bool := 0xd800 ≤ n && n < 0xdc00

def isLowHalf (n : Nat) : Bool := 0xdc00 ≤ n && n < 0xe000

def joinHalves (high low : Nat) : Char :=
  Char.ofNat (0x10000 + (high - 0xd800) * 0x400 + (low - 0xdc00))

/-- The character of a number.  A half that stands alone has none: it is kept, held by
its stand-in. -/
def charOf (n : Nat) : Char :=
  if isHighHalf n || isLowHalf n then Text.standIn n else Char.ofNat n

/-- The characters of a run of numbers, in which two halves make one character. -/
def joinUnits : List Nat → List Char
  | [] => []
  | [n] => [charOf n]
  | n :: m :: rest =>
      if isHighHalf n && isLowHalf m then joinHalves n m :: joinUnits rest
      else charOf n :: joinUnits (m :: rest)

/-- The numbers of the characters and escapes up to the closing quote, and the
text after it.  `start` is what is left from the opening quote on.  An escape with
four digits needs a character after it. -/
def readUnits (start : Nat) : List Char → Except Stop (List Nat × List Char)
  | [] => .error (.malformed .unterminated start)
  | '"' :: rest => .ok ([], rest)
  | ['\\'] => .error (.malformed .unterminated start)
  | '\\' :: 'u' :: a :: b :: c :: d :: rest =>
      match hexNumber? a b c d, rest.isEmpty with
      | some n, false => (readUnits start rest).map fun r => (n :: r.1, r.2)
      | _, _ => .error (.malformed .hexEscape (rest.length + 5))
  | '\\' :: c :: rest =>
      if c = 'u' then .error (.malformed .hexEscape (rest.length + 1))
      else match shortEscape? c with
        | none => .error (.malformed .escape (rest.length + 2))
        | some e => (readUnits start rest).map fun r => (e.toNat :: r.1, r.2)
  | c :: rest =>
      if c.toNat < 0x20 then .error (.malformed .control (rest.length + 1))
      else (readUnits start rest).map fun r => (c.toNat :: r.1, r.2)

/-- The text up to the closing quote and what follows it. -/
def readQuoted (start : Nat) (text : List Char) : Except Stop (List Char × List Char) :=
  (readUnits start text).map fun r => (joinUnits r.1, r.2)

/-! ## Values -/

mutual

def readValue : Nat → List Char → Except Stop (Value × List Char)
  | 0, text => .error (.malformed .value text.length)
  | fuel + 1, text =>
      match text with
      | '"' :: rest => (readQuoted text.length rest).map fun r => (.str (String.ofList r.1), r.2)
      | '[' :: rest =>
          match skipBlanks rest with
          | ']' :: after => .ok (.list [], after)
          | body => (readItems fuel body).map fun r => (.list r.1, r.2)
      | '\x7b' :: rest =>
          match skipBlanks rest with
          | '\x7d' :: after => .ok (.dict [], after)
          | body => (readMembers fuel [] body).map fun r => (.dict r.1, r.2)
      | _ =>
          match readWord? text with
          | some found => .ok found
          | none => readNumber text

def readItems : Nat → List Char → Except Stop (List Value × List Char)
  | 0, text => .error (.malformed .value text.length)
  | fuel + 1, text =>
      (readValue fuel text).bind fun (item, rest) =>
        match skipBlanks rest with
        | ']' :: after => .ok ([item], after)
        | ',' :: after =>
            (readItems fuel (skipBlanks after)).map fun r => (item :: r.1, r.2)
        | body => .error (.malformed .comma body.length)

/-- The members of an object up to its closing brace, written over those that came
before. -/
def readMembers : Nat → Members → List Char → Except Stop (Members × List Char)
  | 0, _, text => .error (.malformed .value text.length)
  | fuel + 1, found, text =>
      match text with
      | '"' :: rest =>
          (readQuoted text.length rest).bind fun (name, afterName) =>
            match skipBlanks afterName with
            | ':' :: afterColon =>
                (readValue fuel (skipBlanks afterColon)).bind fun (value, afterValue) =>
                  let members := found.insert (.str (String.ofList name)) value
                  match skipBlanks afterValue with
                  | '\x7d' :: after => .ok (members, after)
                  | ',' :: after => readMembers fuel members (skipBlanks after)
                  | body => .error (.malformed .comma body.length)
            | body => .error (.malformed .colon body.length)
      | _ => .error (.malformed .name text.length)

end

/-- The place after some characters: its line and column, from one. -/
def place (before : List Char) : Nat × Nat :=
  (before.count '\n' + 1, (before.reverse.takeWhile (· != '\n')).length + 1)

/-- Turns what is left at a fault into its place. -/
def Stop.locate (text : List Char) : Stop → Fault
  | .malformed defect left =>
      let offset := text.length - left
      let (line, column) := place (text.take offset)
      .malformed defect line column offset
  | .tooLong digits => .tooLong digits

def readAll (text : List Char) : Except Stop Value :=
  if text.head? = some '\ufeff' then .error (.malformed .byteOrderMark text.length)
  else
    (readValue (2 * text.length + 2) (skipBlanks text)).bind fun (value, rest) =>
      match skipBlanks rest with
      | [] => .ok value
      | body => .error (.malformed .extra body.length)

def read (text : String) : Except Fault Value :=
  (readAll text.toList).mapError (Stop.locate text.toList)

def Fault.message : Fault → String
  | .malformed defect line column offset =>
      defect.text ++ ": line " ++ toString line ++ " column " ++ toString column ++
        " (char " ++ toString offset ++ ")"
  | .tooLong digits => Numeral.tooLongText digits

end Draftsman.Json
