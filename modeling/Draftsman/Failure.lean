/-
# Draftsman.Failure -- what a failed run says

Every stage has its own type of faults.  Towards the outside a fault is its kind
and, where the kind has one, a message; this module holds that common form.  The
kinds in the first group are diagnoses: they tell the author of a description
what is wrong with it.  The others say that a value was used as what it is not, or
that the disk refused.
-/

namespace Draftsman

set_option autoImplicit false

inductive Failure.Kind where
  /-- A tagged tree breaks the rules of its format. -/
  | malformedTree
  /-- A node is of no kind that a document can be drawn for. -/
  | unsupportedNode
  /-- A predicate has no place in the table of constraints. -/
  | unknownPredicate
  /-- A description nests deeper than the limit. -/
  | tooDeep
  /-- A document is no schema. -/
  | invalidDocument
  /-- A text is no JSON. -/
  | malformedText
  /-- A value is not one of those that can stand in its place. -/
  | badValue
  /-- A number is out of range. -/
  | outOfRange
  /-- A comparison has no result. -/
  | undecided
  /-- A value is of the wrong type. -/
  | wrongType
  /-- A value lacks a member. -/
  | missingMember
  /-- A table lacks an entry. -/
  | missingEntry
  /-- A host type does not describe itself. -/
  | undescribed
  /-- A file is in the way. -/
  | fileExists
  /-- A file is not there. -/
  | fileMissing
  /-- A directory is where a file is needed. -/
  | isDirectory
  /-- A file is where a directory is needed. -/
  | notDirectory
  /-- The disk refuses for another reason. -/
  | refused
  /-- A text has no bytes. -/
  | unencodable
  /-- The run is broken off from outside. -/
  | interrupted
  deriving DecidableEq, Repr

namespace Failure.Kind

/-- Whether a kind is a diagnosis of the description or of the document. -/
def isDiagnosis : Failure.Kind → Bool
  | malformedTree | unsupportedNode | unknownPredicate | tooDeep | invalidDocument => true
  | _ => false

def text : Failure.Kind → String
  | malformedTree => "malformed tree"
  | unsupportedNode => "unsupported node"
  | unknownPredicate => "unknown predicate"
  | tooDeep => "nesting too deep"
  | invalidDocument => "invalid document"
  | malformedText => "malformed text"
  | badValue => "bad value"
  | outOfRange => "number out of range"
  | undecided => "comparison without a result"
  | wrongType => "value of the wrong type"
  | missingMember => "missing member"
  | missingEntry => "missing entry"
  | undescribed => "type without a description"
  | fileExists => "file in the way"
  | fileMissing => "file not found"
  | isDirectory => "directory in place of a file"
  | notDirectory => "file in place of a directory"
  | refused => "refused by the disk"
  | unencodable => "text without bytes"
  | interrupted => "interrupted"

end Failure.Kind

/-- A failure: its kind and its message, empty where the kind has none. -/
structure Failure where
  kind : Failure.Kind
  message : String
  deriving DecidableEq, Repr

def Failure.text (failure : Failure) : String :=
  if failure.message.isEmpty then failure.kind.text
  else failure.kind.text ++ ": " ++ failure.message

end Draftsman
