/-
# Draftsman.Context -- where in a description a node stands

A node's fragment depends on what is around it: the field that it types, whether
it is the element of a list or one of several alternatives, and the type on the
left of the rule that it belongs to.  A context is handed down from node to node;
`Context.descend` goes one level deeper and changes what the step changes.
-/
import Draftsman.Members

namespace Draftsman

set_option autoImplicit false

/-- Where a node stands. -/
structure Context where
  /-- The name of the enclosing field, null outside any. -/
  key : Value := .null
  /-- The notes of that field. -/
  keyNotes : Value := .dict []
  /-- Whether the node is the element of a list. -/
  inArray : Bool := false
  /-- Whether the node is one of several alternatives. -/
  inSum : Bool := false
  /-- The primitive on the left of the enclosing rule, null where there is none. -/
  leftType : Value := .null
  /-- The number of steps from the root. -/
  depth : Nat := 0
  deriving Repr, Inhabited

namespace Context

def root : Context := {}

/-- A node stands at top level outside any field, list and alternative. -/
def topLevel (ctx : Context) : Bool := ctx.key.isNull && !ctx.inArray && !ctx.inSum

/-- What a step may change. -/
inductive Change where
  | key (name : Value)
  | keyNotes (notes : Value)
  | inArray (yes : Bool)
  | inSum (yes : Bool)
  | leftType (primitive : Value)
  deriving Repr

def change (ctx : Context) : Change → Context
  | .key name => { ctx with key := name }
  | .keyNotes notes => { ctx with keyNotes := notes }
  | .inArray yes => { ctx with inArray := yes }
  | .inSum yes => { ctx with inSum := yes }
  | .leftType primitive => { ctx with leftType := primitive }

/-- The context one step deeper, with some changes. -/
def descend (ctx : Context) (changes : List Change) : Context :=
  { changes.foldl change ctx with depth := ctx.depth + 1 }

/-- The context of a wrapped type or of a field set. -/
def inner (ctx : Context) : Context := ctx.descend []

def ruleFor (ctx : Context) (primitive : Value) : Context := ctx.descend [.leftType primitive]

def alternative (ctx : Context) : Context := ctx.descend [.inSum true]

def element (ctx : Context) : Context := ctx.descend [.inArray true, .leftType .null]

def field (ctx : Context) (name notes : Value) : Context :=
  ctx.descend [.key name, .keyNotes notes, .inArray false, .inSum false, .leftType .null]

theorem depth_descend (ctx : Context) (changes : List Change) :
    (ctx.descend changes).depth = ctx.depth + 1 := rfl

end Context

end Draftsman
