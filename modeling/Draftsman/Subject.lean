/-
# Draftsman.Subject -- what a host asks a document for

A host asks for the document of a description, or of one of its own types.  Such a
type describes itself; one that has been given a method of its own for its document
hands its description on as if the host had asked for that.

* `Options.ofArguments` reads the named arguments of a request;
* `Subject.document` is the document, or why there is none.
-/
import Draftsman.Compile

namespace Draftsman

set_option autoImplicit false

inductive Subject where
  /-- A description. -/
  | description (tree : Node)
  /-- A type that describes itself. -/
  | hostType (tree : Node)
  /-- A type with a method of its own for its document. -/
  | documented (tree : Node)
  /-- A type with such a method that does not describe itself. -/
  | undeclared

inductive DocumentFault where
  /-- An argument has a name that no request knows. -/
  | badArgument
  /-- A value that is no description does not describe itself either. -/
  | noDescription
  /-- A type does not describe itself. -/
  | undeclared
  /-- The description has no document. -/
  | compile (fault : CompileFault)
  deriving Repr

def DocumentFault.failure : DocumentFault → Failure
  | badArgument => ⟨.wrongType, ""⟩
  | noDescription => ⟨.missingMember, ""⟩
  | undeclared => ⟨.undescribed, ""⟩
  | compile fault => fault.failure

def argumentNames : List String := ["root", "loose", "max_depth"]

/-- The options that named arguments ask for.  No other names are known. -/
def Options.ofArguments (arguments : List (String × Value)) : Except DocumentFault Options :=
  if arguments.all fun argument => argumentNames.contains argument.1 then
    .ok (Options.ofAttributes (Members.named arguments))
  else .error .badArgument

namespace Subject

def tree : Subject → Except DocumentFault Node
  | description (.plain _) | documented (.plain _) => .error .noDescription
  | description tree | hostType tree | documented tree => .ok tree
  | undeclared => .error .undeclared

def document (subject : Subject) (arguments : List (String × Value)) :
    Except DocumentFault Members := do
  let options ← Options.ofArguments arguments
  let tree ← subject.tree
  (tree.compile options).mapError .compile

end Subject

end Draftsman
