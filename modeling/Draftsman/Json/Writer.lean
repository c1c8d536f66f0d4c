/-
# Draftsman.Json.Writer -- values as JSON text

A text is written in ASCII: what lies outside the range from space to tilde is
escaped, beyond the first 65536 characters as a pair of halves, and a half that
stands alone as itself.  Tuples are
written as arrays, primitives as their names, and keys that are numbers, truth
values or null as texts.  Decimals, sets, classes and patterns have no JSON form,
nor have other keys, nor integers with too many digits.

* `Json.write` is the text of a value in a layout;
* `Json.settle` is the value that this text reads back as, or the fault at the
  first value or key without a form.
-/
import Draftsman.Members
import Draftsman.Number.Numeral
import Draftsman.Text.Quoted

namespace Draftsman.Json

set_option autoImplicit false

inductive Unwritable where
  | value (typeName : String)
  | key (typeName : String)
  | tooLong
  deriving DecidableEq, Repr

def Unwritable.message : Unwritable → String
  | .value typeName => "Object of type " ++ typeName ++ " is not JSON serializable"
  | .key typeName => "keys must be str, int, float, bool or None, not " ++ typeName
  | .tooLong => Numeral.unwritableText

/-- How a document is laid out: on one line, or a line for each item, shifted by a
unit for each level. -/
inductive Layout where
  | oneLine
  | lines (unit : String)
  deriving DecidableEq, Repr

namespace Layout

/-- What separates a level's items from what is around them. -/
def lineBreak (level : Nat) : Layout → String
  | oneLine => ""
  | lines unit => "\n" ++ String.join (List.replicate level unit)

/-- What stands between two items of a level. -/
def separator (level : Nat) : Layout → String
  | oneLine => ", "
  | lines unit => "," ++ (lines unit).lineBreak level

end Layout

/-- Numbers in documents: as in messages, but for the words of the three values
that are none. -/
def numberStyle : Binary64.Style :=
  { Binary64.plain with nan := "NaN", infinity := "Infinity" }

def escapedChar (c : Char) : List Char :=
  if c = '"' ∨ c = '\\' then ['\\', c]
  else if c = '\n' then ['\\', 'n']
  else if c = '\r' then ['\\', 'r']
  else if c = '\t' then ['\\', 't']
  else if c = '\x0c' then ['\\', 'f']
  else if c = '\x08' then ['\\', 'b']
  else if ' ' ≤ c ∧ c ≤ '~' then [c]
  else if c.toNat < 0x10000 then '\\' :: 'u' :: Text.hexadecimal 4 c.toNat
  else match Text.half? c with
    | some half => Text.halfEscape half
    | none =>
        let n := c.toNat - 0x10000
        Text.halfEscape (0xd800 + n / 0x400) ++ Text.halfEscape (0xdc00 + n % 0x400)

def quoted (text : String) : String :=
  String.ofList ('"' :: text.toList.flatMap escapedChar ++ ['"'])

def writeInt (n : Int) : Except Unwritable String :=
  if Numeral.tooLong n then .error .tooLong else .ok (toString n)

def keyText (key : Value) : Except Unwritable String :=
  match key with
  | .str s => .ok s
  | .primitive p => .ok p.name
  | .float x => .ok (x.write numberStyle)
  | .bool b => .ok (if b then "true" else "false")
  | .null => .ok "null"
  | .int n => writeInt n
  | _ => .error (.key key.typeName)

def writeAtom (v : Value) : Except Unwritable String :=
  match v with
  | .null => .ok "null"
  | .bool b => .ok (if b then "true" else "false")
  | .int n => writeInt n
  | .float x => .ok (x.write numberStyle)
  | .str s => .ok (quoted s)
  | .primitive p => .ok (quoted p.name)
  | _ => .error (.value v.typeName)

def enclose (layout : Layout) (level : Nat) (opening closing : String)
    (items : List String) : String :=
  if items.isEmpty then opening ++ closing
  else
    opening ++ layout.lineBreak (level + 1) ++
      (layout.separator (level + 1)).intercalate items ++ layout.lineBreak level ++ closing

mutual

/-- The text of a value at a level of nesting. -/
def writeAt (layout : Layout) (level : Nat) : Value → Except Unwritable String
  | .list items => do
      let texts ← writeItems layout (level + 1) items
      pure (enclose layout level "[" "]" texts)
  | .tuple items => do
      let texts ← writeItems layout (level + 1) items
      pure (enclose layout level "[" "]" texts)
  | .dict members => do
      let texts ← writeMembers layout (level + 1) members
      pure (enclose layout level "\x7b" "\x7d" texts)
  | v => writeAtom v

def writeItems (layout : Layout) (level : Nat) : List Value → Except Unwritable (List String)
  | [] => pure []
  | v :: rest => do
      let text ← writeAt layout level v
      let texts ← writeItems layout level rest
      pure (text :: texts)

def writeMembers (layout : Layout) (level : Nat) :
    List (Value × Value) → Except Unwritable (List String)
  | [] => pure []
  | (k, v) :: rest => do
      let name ← keyText k
      let text ← writeAt layout level v
      let texts ← writeMembers layout level rest
      pure ((quoted name ++ ": " ++ text) :: texts)

end

def write (layout : Layout) (v : Value) : Except Unwritable String := writeAt layout 0 v

/-- The value that an atom's text reads back as. -/
def settleAtom (v : Value) : Except Unwritable Value :=
  match v with
  | .int n => if Numeral.tooLong n then .error .tooLong else .ok (.int n)
  | .float (.nan _) | .float .made => .ok (.float (.nan 0))
  | .null | .bool _ | .float _ | .str _ => .ok v
  | .primitive p => .ok (.str p.name)
  | _ => .error (.value v.typeName)

mutual

/-- The value that the text of a value reads back as. -/
def settle : Value → Except Unwritable Value
  | .list items => do
      let settled ← settleItems items
      pure (.list settled)
  | .tuple items => do
      let settled ← settleItems items
      pure (.list settled)
  | .dict members => do
      let settled ← settleMembers members
      pure (.dict (Members.ofList settled))
  | v => settleAtom v

def settleItems : List Value → Except Unwritable (List Value)
  | [] => pure []
  | v :: rest => do
      let first ← settle v
      let others ← settleItems rest
      pure (first :: others)

/-- The same for some members; their keys become texts. -/
def settleMembers : List (Value × Value) → Except Unwritable (List (Value × Value))
  | [] => pure []
  | (k, v) :: rest => do
      let name ← keyText k
      let first ← settle v
      let others ← settleMembers rest
      pure ((.str name, first) :: others)

end

end Draftsman.Json
