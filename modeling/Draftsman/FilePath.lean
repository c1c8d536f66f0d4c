/-
# Draftsman.FilePath -- places on a disk

A place is the list of names that leads to it from the top.  A written path starts
at the top or at home; it is resolved by its text alone, so that a step up undoes the
name before it, whatever that names, and stays at the top.

* `FilePath.resolve` is the place of a written path;
* `FilePath.text` writes a place;
* `FilePath.parent`, `FilePath.name` take a place apart, `FilePath.ancestors` lists
  the places on the way to it;
* `FilePath.nameFits` and `FilePath.textFits` say whether a disk takes its name and its
  text, which are limited in bytes.
-/

namespace Draftsman

set_option autoImplicit false

/-- A place on a disk, as the names that lead to it. -/
abbrev FilePath := List String

namespace FilePath

def text (path : FilePath) : String := "/" ++ "/".intercalate path

/-- The place around a place; the top is around itself. -/
def parent (path : FilePath) : FilePath := path.dropLast

/-- The last name of a place; the top has an empty one. -/
def name (path : FilePath) : String := path.getLastD ""

/-- The places on the way to a place, from the top down, without the place
itself. -/
def ancestors (path : FilePath) : List FilePath :=
  (List.range path.length).map fun size => path.take size

def nameLimit : Nat := 255

def textLimit : Nat := 4095

def nameFits (path : FilePath) : Bool := path.name.utf8ByteSize ≤ nameLimit

def textFits (path : FilePath) : Bool := path.text.utf8ByteSize ≤ textLimit

def enter (path : FilePath) (step : String) : FilePath :=
  if step = "" ∨ step = "." then path
  else if step = ".." then path.parent
  else path ++ [step]

/-- Cuts a text at its slashes. -/
def steps (text : List Char) : List (List Char) :=
  match text with
  | [] => [[]]
  | c :: rest =>
      if c = '/' then [] :: steps rest
      else match steps rest with
        | [] => [[c]]
        | first :: others => (c :: first) :: others

def resolve (home : FilePath) (written : String) : FilePath :=
  let start := if written.toList.head? = some '/' then [] else home
  (steps written.toList).foldl (fun path step => path.enter (String.ofList step)) start

end FilePath

end Draftsman
