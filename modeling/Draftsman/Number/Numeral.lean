/-
# Draftsman.Number.Numeral -- integers written as text

A numeral is a sign and decimal digits of any script, with single underscores
between digits and blanks around the whole.  One with more than 4300 digits is
refused: reading it takes time quadratic in its length.  The limit is tested on
the run of digits, before anything after it is looked at.

* `Numeral.read` gives the integer or the fault;
* `Numeral.tooLong` is the limit, for texts read and texts written;
  `Numeral.tooLongText` and `Numeral.unwritableText` are the wordings of it.
-/
import Draftsman.Number.Binary64
import Draftsman.Text.Script

namespace Draftsman.Numeral

set_option autoImplicit false

inductive Fault where
  | malformed
  | tooLong (digits : Nat)
  deriving DecidableEq, Repr

/-- The most digits that an integer is read from or written with. -/
def digitLimit : Nat := 4300

def tooLong (n : Int) : Bool := tenTo digitLimit ≤ n.natAbs

def tooLongText (digits : Nat) : String :=
  "Exceeds the limit (" ++ toString digitLimit ++
    " digits) for integer string conversion: value has " ++ toString digits ++
    " digits; use sys.set_int_max_str_digits() to increase the limit"

def unwritableText : String :=
  "Exceeds the limit (" ++ toString digitLimit ++
    " digits) for integer string conversion; use sys.set_int_max_str_digits() to increase the limit"

/-- The digits of a run in which single underscores separate digits, and the rest
of the text; nothing if an underscore stands first, last or twice. -/
def digitRun? : List Char → Option (List Nat × List Char)
  | [] => some ([], [])
  | c :: rest =>
      match Text.digitValue? c with
      | some d => (digitRun? rest).map fun run => (d :: run.1, run.2)
      | none =>
          if c = '_' then
            if (rest.head?.bind Text.digitValue?).isSome then digitRun? rest else none
          else some ([], c :: rest)

def ofDigits (digits : List Nat) : Nat := digits.foldl (fun n d => 10 * n + d) 0

def read (text : String) : Except Fault Int :=
  let (negative, body) := Binary64.splitSign (text.toList.dropWhile Text.isBlank)
  if body.head? = some '_' then .error .malformed
  else match digitRun? body with
    | none => .error .malformed
    | some (digits, rest) =>
        if digitLimit < digits.length then .error (.tooLong digits.length)
        else if digits.isEmpty || !rest.all Text.isBlank then .error .malformed
        else .ok (if negative then -(ofDigits digits : Int) else ofDigits digits)

end Draftsman.Numeral
