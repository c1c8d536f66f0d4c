/-
# Draftsman.Node.Path -- places inside a tagged tree

A place is the sequence of steps that leads to it from the root: into the member
of a name, or into the item of a list.  `Path.text` writes it, `Path.follow?` goes
there.
-/
import Draftsman.Members

namespace Draftsman

set_option autoImplicit false

/-- A step from a value into a part of it. -/
inductive Step where
  | member (name : String)
  | item (index : Nat)
  deriving DecidableEq, Repr

namespace Step

def text : Step → String
  | member name => "/" ++ name
  | item index => "/" ++ toString index

/-- The part of a value that a step leads to. -/
def follow? (v : Value) : Step → Option Value
  | member name =>
      match v with
      | .dict members => Members.get? name members
      | _ => none
  | item index =>
      match v with
      | .list items => items[index]?
      | _ => none

end Step

abbrev Path := List Step

namespace Path

/-- The text of a place; the root is a number sign. -/
def text (path : Path) : String := "#" ++ String.join (path.map Step.text)

/-- The value at a place. -/
def follow? : Path → Value → Option Value
  | [], v => some v
  | step :: rest, v => (step.follow? v).bind (follow? rest)

end Path

end Draftsman
