/-
# Draftsman.Annotation -- what a node says about itself in the document

A node carries notes of any content; only a few of them reach the document.
Notes are a dictionary, but nothing keeps a host from putting another value in
their place: an empty one says nothing, any other is refused as soon as a name is
looked for in it.

* `annotations` picks the notes of some names, in the order of the names;
* `overlay` writes the title, description and format of some notes over a
  fragment;
* `noteOr?` reads one note with a value to fall back on.
-/
import Draftsman.Members

namespace Draftsman

set_option autoImplicit false

/-- The notes that every fragment takes over. -/
def annotationNames : List String := ["title", "description", "format"]

/-- The notes of an element that describe the list of such elements. -/
def hoistedNames : List String := ["title", "description"]

def occursIn (part : List Char) : List Char → Bool
  | [] => part.isEmpty
  | c :: rest => part.isPrefixOf (c :: rest) || occursIn part rest

/-- Whether a name can be found in a value that is no dictionary.  `none` means
that the value cannot be searched. -/
def searched? (name : String) (v : Value) : Option Bool :=
  match v.text? with
  | some text => some (occursIn name.toList text.toList)
  | none =>
      match v with
      | .list items | .tuple items | .set items => some (items.any (Value.equal (.str name)))
      | _ => none

/-- Notes that are no dictionary are refused if a name can be found in them, or
if they cannot be searched.  `none` is the refusal. -/
def barren? (names : List String) (v : Value) : Option Members :=
  if names.all fun name => searched? name v == some false then some [] else none

/-- The notes of some names, in the order of the names.  `none` is a refusal. -/
def annotations (names : List String) (notes : Value) : Option Members :=
  if notes.truthy then
    match notes with
    | .dict members =>
        some (Members.ofList (names.filterMap fun name =>
          (Members.get? name members).map fun v => (.str name, v)))
    | _ => barren? names notes
  else some []

/-- Writes the annotations of some notes over a fragment.  `none` is a refusal. -/
def overlay (fragment : Members) (notes : Value) : Option Members :=
  (annotations annotationNames notes).map (Members.update fragment)

/-- The note of a name, or a value to fall back on.  `none` means that the notes
are no dictionary. -/
def noteOr? (notes : Value) (name : String) (fallback : Value) : Option Value :=
  match notes with
  | .dict members => some ((Members.get? name members).getD fallback)
  | _ => none

end Draftsman
