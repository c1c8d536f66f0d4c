/-
# Draftsman.Compile.Remarks -- constraints that leave no trace in the document

A predicate may leave the document as it is: in loose mode one without a place in
documents is dropped, and an operand may have no counterpart.  Each time there is
a remark, in the order of visiting, up to the first fault.

* `Node.remarks` gives the remarks of a compilation.  It walks the tree as
  `Node.visit` does, and asks that function whether the walk goes on.
-/
import Draftsman.Compile

namespace Draftsman

set_option autoImplicit false

inductive Remark where
  | dropped (name : Value)
  | noCounterpart (name operand : Value)
  deriving Repr

def Remark.text : Remark → String
  | dropped name => "Dropping unmapped predicate " ++ name.bare
  | noCounterpart name operand =>
      "Predicate " ++ name.bare ++ " has no schema equivalent for " ++ operand.written

namespace Node

def succeeds {α : Type} : Except CompileFault α → Bool
  | .ok _ => true
  | .error _ => false

/-- The remarks on a predicate: it leaves an empty fragment for one of two
reasons. -/
def predicateRemarks (o : Options) (leftType name operand : Value) : List Remark :=
  match predicateFragment o leftType name operand with
  | .ok [] =>
      if ((lookupName leftType name).bind constraint?).isNone then [.dropped name]
      else [.noCounterpart name operand]
  | _ => []

/-- The remarks inside an object type: none where a reference stands for it. -/
def unlessReferred (ctx : Context) (notes : Value) (inside : List Remark) : List Remark :=
  match reference notes ctx.keyNotes with
  | .ok ref => if ref.isNull then inside else []
  | .error _ => []

/-- The remarks of a visit that is within the depth limit; beyond it there are none. -/
def withinLimit (o : Options) (ctx : Context) (inside : List Remark) : List Remark :=
  if succeeds (o.allow ctx.depth) then inside else []

mutual

def remarksAt (o : Options) (ctx : Context) : Node → List Remark
  | constructor type _ _ => withinLimit o ctx (remarksAt o ctx.inner type)
  | constrained type rule _ =>
      withinLimit o ctx (remarksAt o ctx.inner type ++
        if succeeds (visit o ctx.inner type) then
          remarksAt o (ctx.ruleFor (concreteType type)) rule
        else [])
  | predicate name operand _ =>
      withinLimit o ctx (predicateRemarks o ctx.leftType name operand)
  | sum types _ =>
      withinLimit o ctx
        (if enumerable types then remarksOfSlot o ctx.alternative [] types else [])
  | intersection left right _ =>
      let own := concreteType left
      withinLimit o ctx (remarksAt o ctx.inner left ++
        if succeeds (visit o ctx.inner left) then
          remarksAt o (ctx.ruleFor (if own.truthy then own else ctx.leftType)) right
        else [])
  | mapping fields notes =>
      withinLimit o ctx (unlessReferred ctx notes (remarksAt o ctx.inner fields))
  | aggregate _ fields notes =>
      withinLimit o ctx (unlessReferred ctx notes (remarksAt o ctx.inner fields))
  | array member _ => withinLimit o ctx (remarksAt o ctx.element member)
  | schema keys notes =>
      withinLimit o ctx (unlessReferred ctx notes (remarksOfFields o ctx.inner keys))
  | key name type _ notes => withinLimit o ctx (remarksAt o (ctx.field name notes) type)
  | enum type _ _ => withinLimit o ctx (remarksAt o ctx.inner type)
  | nominal _ _ | lazy _ | bare _ | plain _ => []

def remarksOfSlot (o : Options) (ctx : Context) (found : List Members) :
    Children → List Remark
  | .nodes items => remarksOfEach o ctx found items
  | .value _ => []

def remarksOfEach (o : Options) (ctx : Context) (found : List Members) :
    List Node → List Remark
  | [] => []
  | node :: rest =>
      let own := match node with
        | sum types notes =>
            if notes.truthy then remarksAt o ctx (sum types notes)
            else remarksOfSlot o ctx found types
        | other => remarksAt o ctx other
      own ++ match visitEach o ctx found [node] with
        | .ok next => remarksOfEach o ctx next rest
        | .error _ => []

def remarksOfFields (o : Options) (ctx : Context) : Children → List Remark
  | .nodes items => remarksOfKeys o ctx items
  | .value _ => []

def remarksOfKeys (o : Options) (ctx : Context) : List Node → List Remark
  | [] => []
  | node :: rest =>
      remarksAt o ctx node ++
        if succeeds (visitFields o ctx {} [node]) then remarksOfKeys o ctx rest else []

end

/-- The remarks of a compilation. -/
def remarks (o : Options) (node : Node) : List Remark := remarksAt o Context.root node

end Node

end Draftsman
