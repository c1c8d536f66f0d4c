/-
# Draftsman.Node -- type descriptions as trees

A description is a tree of nodes of twelve kinds.  A host builds such trees by
hand, and nothing checks what it puts into them: a slot for a child may hold any
value (`Node.plain`), the slots for several children any value in place of a
tuple (`Children.value`), and two kinds of nodes are outside the twelve
(`Node.lazy`, `Node.bare`).  An absent child is the plain value null.

* `Node.notes` is what a node carries along, `Node.kindName` the name of its kind;
* `Node.equal` compares trees, kind by kind and field by field, and `Node.same?` tells
  when the comparison has no result;
* `Node.annotate?` adds notes.
-/
import Draftsman.Members

namespace Draftsman

set_option autoImplicit false

mutual

/-- A node of a description. -/
inductive Node where
  /-- A primitive type. -/
  | nominal (primitive : Value) (notes : Value)
  /-- A type whose values pass through a function first. -/
  | constructor (type : Node) (fn : Value) (notes : Value)
  /-- A type together with a rule for its values. -/
  | constrained (type rule : Node) (notes : Value)
  /-- A named constraint and its operand. -/
  | predicate (name operand : Value) (notes : Value)
  /-- A type satisfied by any one of others. -/
  | sum (types : Children) (notes : Value)
  /-- A type or rule satisfied by both of two others at once. -/
  | intersection (left right : Node) (notes : Value)
  /-- An object type, with a field set if it has one. -/
  | mapping (schema : Node) (notes : Value)
  /-- A named object type. -/
  | aggregate (name : Value) (schema : Node) (notes : Value)
  /-- A list of elements of one type. -/
  | array (member : Node) (notes : Value)
  /-- A field set. -/
  | schema (keys : Children) (notes : Value)
  /-- A named field. -/
  | key (name : Value) (type : Node) (required : Value) (notes : Value)
  /-- An enumeration over a type; its values are kept for reference only. -/
  | enum (type : Node) (values : Children) (notes : Value)
  /-- A node of a kind outside the twelve. -/
  | lazy (notes : Value)
  /-- A node of no kind. -/
  | bare (notes : Value)
  /-- A value in the place of a node. -/
  | plain (value : Value)

/-- What stands in a slot for several children. -/
inductive Children where
  /-- A tuple. -/
  | nodes (items : List Node)
  /-- Any other value. -/
  | value (v : Value)

end

instance : Inhabited Node := ⟨.plain .null⟩

instance : Inhabited Children := ⟨.nodes []⟩

namespace Node

/-- The notes of a node; a plain value has none. -/
def notes : Node → Value
  | nominal _ notes | constructor _ _ notes | constrained _ _ notes | predicate _ _ notes
  | sum _ notes | intersection _ _ notes | mapping _ notes | aggregate _ _ notes
  | array _ notes | schema _ notes | key _ _ _ notes | enum _ _ notes | lazy notes
  | bare notes => notes
  | plain _ => .null

def withNotes (notes : Value) : Node → Node
  | nominal primitive _ => nominal primitive notes
  | constructor type fn _ => constructor type fn notes
  | constrained type rule _ => constrained type rule notes
  | predicate name operand _ => predicate name operand notes
  | sum types _ => sum types notes
  | intersection left right _ => intersection left right notes
  | mapping fields _ => mapping fields notes
  | aggregate name fields _ => aggregate name fields notes
  | array member _ => array member notes
  | schema keys _ => schema keys notes
  | key name type required _ => key name type required notes
  | enum type values _ => enum type values notes
  | lazy _ => lazy notes
  | bare _ => bare notes
  | plain value => plain value

/-- A node with more notes, written over its own.  `none` means that the node has
no dictionary for notes. -/
def annotate? (more : Members) (node : Node) : Option Node :=
  match node.notes with
  | .dict own => some (node.withNotes (.dict (Members.update own more)))
  | _ => none

/-- The name of a node's kind; a node of no kind and a plain value have none. -/
def kindName : Node → String
  | nominal _ _ => "nominal"
  | constructor _ _ _ => "constructor"
  | constrained _ _ _ => "constrained"
  | predicate _ _ _ => "predicate"
  | sum _ _ => "sum"
  | intersection _ _ _ => "intersection"
  | mapping _ _ => "mapping"
  | aggregate _ _ _ => "aggregate"
  | array _ _ => "array"
  | schema _ _ => "schema"
  | key _ _ _ _ => "key"
  | enum _ _ _ => "enum"
  | lazy _ => "lazy"
  | bare _ | plain _ => ""

def name? : Node → Option Value
  | predicate name _ _ | aggregate name _ _ | key name _ _ _ => some name
  | _ => none

/-- Whether a field is required; other nodes do not say. -/
def required? : Node → Option Value
  | key _ _ required _ => some required
  | _ => none

def isSchema : Node → Bool
  | schema _ _ => true
  | _ => false

def isKey : Node → Bool
  | key _ _ _ _ => true
  | _ => false

mutual

/-- Whether two nodes are of one kind and equal in every field. -/
def equal : Node → Node → Bool
  | nominal p m, b => match b with
      | nominal q n => p.equal q && m.equal n
      | _ => false
  | constructor t f m, b => match b with
      | constructor u g n => equal t u && f.equal g && m.equal n
      | _ => false
  | constrained t r m, b => match b with
      | constrained u s n => equal t u && equal r s && m.equal n
      | _ => false
  | predicate a o m, b => match b with
      | predicate c p n => a.equal c && o.equal p && m.equal n
      | _ => false
  | sum ts m, b => match b with
      | sum us n => equalChildren ts us && m.equal n
      | _ => false
  | intersection l r m, b => match b with
      | intersection k s n => equal l k && equal r s && m.equal n
      | _ => false
  | mapping s m, b => match b with
      | mapping t n => equal s t && m.equal n
      | _ => false
  | aggregate a s m, b => match b with
      | aggregate c t n => a.equal c && equal s t && m.equal n
      | _ => false
  | array e m, b => match b with
      | array f n => equal e f && m.equal n
      | _ => false
  | schema ks m, b => match b with
      | schema ls n => equalChildren ks ls && m.equal n
      | _ => false
  | key a t r m, b => match b with
      | key c u s n => a.equal c && equal t u && r.equal s && m.equal n
      | _ => false
  | enum t vs m, b => match b with
      | enum u ws n => equal t u && equalChildren vs ws && m.equal n
      | _ => false
  | lazy m, b => match b with
      | lazy n => m.equal n
      | _ => false
  | bare m, b => match b with
      | bare n => m.equal n
      | _ => false
  | plain v, b => match b with
      | plain w => v.equal w
      | _ => false

def equalChildren : Children → Children → Bool
  | .nodes xs, b => match b with
      | .nodes ys => equalAll xs ys
      | _ => false
  | .value v, b => match b with
      | .value w => v.equal w
      | _ => false

def equalAll : List Node → List Node → Bool
  | [], [] => true
  | x :: xs, y :: ys => equal x y && equalAll xs ys
  | _, _ => false

end

/-- Whether comparing some notes has no result, or else comparing the rest, which is
done only if the notes are equal. -/
def notesClash (m n : Value) (rest : Bool) : Bool := m.clashes n || (m.equal n && rest)

mutual

/-- Whether comparing two nodes has no result.  The notes are compared first, then the
fields in order, no further than up to the first difference. -/
def clashes : Node → Node → Bool
  | nominal p m, b => match b with
      | nominal q n => notesClash m n (p.clashes q)
      | _ => false
  | constructor t f m, b => match b with
      | constructor u g n => notesClash m n (clashes t u || (equal t u && f.clashes g))
      | _ => false
  | constrained t r m, b => match b with
      | constrained u s n => notesClash m n (clashes t u || (equal t u && clashes r s))
      | _ => false
  | predicate a o m, b => match b with
      | predicate c p n => notesClash m n (a.clashes c || (a.equal c && o.clashes p))
      | _ => false
  | sum ts m, b => match b with
      | sum us n => notesClash m n (childrenClash ts us)
      | _ => false
  | intersection l r m, b => match b with
      | intersection k s n => notesClash m n (clashes l k || (equal l k && clashes r s))
      | _ => false
  | mapping s m, b => match b with
      | mapping t n => notesClash m n (clashes s t)
      | _ => false
  | aggregate a s m, b => match b with
      | aggregate c t n => notesClash m n (a.clashes c || (a.equal c && clashes s t))
      | _ => false
  | array e m, b => match b with
      | array f n => notesClash m n (clashes e f)
      | _ => false
  | schema ks m, b => match b with
      | schema ls n => notesClash m n (childrenClash ks ls)
      | _ => false
  | key a t r m, b => match b with
      | key c u s n =>
          notesClash m n (a.clashes c ||
            (a.equal c && (clashes t u || (equal t u && r.clashes s))))
      | _ => false
  | enum t vs m, b => match b with
      | enum u ws n => notesClash m n (clashes t u || (equal t u && childrenClash vs ws))
      | _ => false
  | lazy m, b => match b with
      | lazy n => m.clashes n
      | _ => false
  | bare m, b => match b with
      | bare n => m.clashes n
      | _ => false
  | plain v, b => match b with
      | plain w => v.clashes w
      | _ => false

def childrenClash : Children → Children → Bool
  | .nodes xs, b => match b with
      | .nodes ys => anyClash xs ys
      | _ => false
  | .value v, b => match b with
      | .value w => v.clashes w
      | _ => false

def anyClash : List Node → List Node → Bool
  | x :: xs, y :: ys => clashes x y || (equal x y && anyClash xs ys)
  | _, _ => false

end

/-- Compares two nodes; `none` is no result. -/
def same? (a b : Node) : Option Bool := if clashes a b then none else some (equal a b)

end Node

end Draftsman
