/-
# Draftsman.Value.Written -- values inside messages

A message shows a value in its written form: texts between quotes, numbers by
their shortest text, collections between brackets.  Where a value stands for
itself rather than being shown, a text is left bare, a decimal is its bare number
and a primitive its label.

* `Value.written` is the shown form;
* `Value.bare` is the form of a value that stands for itself;
* `Value.isTooLong` tells when there is neither, as an integer has too many digits, and
  `Failure.showing` what becomes of a message that shows such a value.
-/
import Draftsman.Failure
import Draftsman.Number.Numeral
import Draftsman.Text.Quoted
import Draftsman.Value

namespace Draftsman

set_option autoImplicit false

namespace Flags

def names (flags : Flags) : List String :=
  (if flags.ignoreCase then ["re.IGNORECASE"] else []) ++
    (if flags.multiline then ["re.MULTILINE"] else []) ++
    (if flags.dotAll then ["re.DOTALL"] else []) ++
    (if flags.verbose then ["re.VERBOSE"] else []) ++
    (if flags.ascii then ["re.ASCII"] else [])

end Flags

namespace Pattern

def shownLimit : Nat := 200

def written (p : Pattern) : String :=
  let source := String.ofList ((Text.quoted p.source).toList.take shownLimit)
  match p.flags.names with
  | [] => "re.compile(" ++ source ++ ")"
  | names => "re.compile(" ++ source ++ ", " ++ "|".intercalate names ++ ")"

end Pattern

namespace Value

def atomWritten : Value → String
  | null => "None"
  | bool b => if b then "True" else "False"
  | int n => toString n
  | float x => x.write Binary64.plain
  | str s => Text.quoted s
  | decimal d => "Decimal('" ++ d.text ++ "')"
  | primitive p => "<" ++ p.label ++ ": " ++ Text.quoted p.name ++ ">"
  | host c => "<class '" ++ c.qualifiedName ++ "'>"
  | pattern p => p.written
  | _ => ""

mutual

def written : Value → String
  | list items => "[" ++ ", ".intercalate (writtenItems items) ++ "]"
  | tuple [] => "()"
  | tuple [item] => "(" ++ written item ++ ",)"
  | tuple (first :: second :: rest) =>
      "(" ++ ", ".intercalate (written first :: written second :: writtenItems rest) ++ ")"
  | set [] => "set()"
  | set (first :: rest) =>
      "\x7b" ++ ", ".intercalate (written first :: writtenItems rest) ++ "\x7d"
  | dict members => "\x7b" ++ ", ".intercalate (writtenMembers members) ++ "\x7d"
  | v => atomWritten v

def writtenItems : List Value → List String
  | [] => []
  | v :: rest => written v :: writtenItems rest

def writtenMembers : List (Value × Value) → List String
  | [] => []
  | (k, v) :: rest => (written k ++ ": " ++ written v) :: writtenMembers rest

end

/-- The form of a value that stands for itself. -/
def bare : Value → String
  | str s => s
  | decimal d => d.text
  | primitive p => p.label
  | v => written v

mutual

/-- Whether an integer in a value has too many digits to be shown. -/
def isTooLong : Value → Bool
  | int n => Numeral.tooLong n
  | list items | tuple items | set items => anyTooLong items
  | dict members => anyMemberTooLong members
  | _ => false

def anyTooLong : List Value → Bool
  | [] => false
  | v :: rest => isTooLong v || anyTooLong rest

def anyMemberTooLong : List (Value × Value) → Bool
  | [] => false
  | (k, v) :: rest => isTooLong k || isTooLong v || anyMemberTooLong rest

end

end Value

namespace Failure

def unshown : Failure := ⟨.badValue, Numeral.unwritableText⟩

/-- A failure with a message that shows a value; it gives way to the failure to show it. -/
def showing (shown : Value) (failure : Failure) : Failure :=
  if shown.isTooLong then unshown else failure

theorem showing_of_short {shown : Value} (short : shown.isTooLong = false) (failure : Failure) :
    failure.showing shown = failure := by
  rw [showing, short, if_neg Bool.false_ne_true]

/-- A failure of another kind than that to show a value shows it. -/
theorem showing_eq {shown : Value} {failure : Failure}
    (other : (failure.showing shown).kind ≠ .badValue) : failure.showing shown = failure := by
  cases long : shown.isTooLong with
  | false => exact showing_of_short long failure
  | true => exact absurd (by rw [showing, if_pos long]; rfl) other

theorem showing_of_long {shown : Value} (long : shown.isTooLong = true) (failure : Failure) :
    failure.showing shown = unshown := if_pos long

end Failure

end Draftsman
