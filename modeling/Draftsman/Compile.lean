/-
# Draftsman.Compile -- documents from descriptions

Each kind of node has its own way of becoming a fragment of the document, made
from the fragments of its children; then the node's own annotations are laid over
it.  Nothing but the context is handed down and nothing but the fragment is handed
up, so the fragment of a node depends on its tree, its context and the options
alone.

* `Node.visit` is the fragment of a node in a context.  It recurses on the tree;
  alternatives that are unions without notes are visited in place of the union
  that holds them (`visitAlternatives`);
* `Node.concreteType` is the primitive that a node stands for, read off the tree
  without compiling it;
* `Node.compile` is the document of a description.

A visit fails at the first value, in order of visiting, that is too deep, that is
no node of the twelve kinds, that is an unknown predicate in strict mode, or whose
operand or notes are not what they should be.
-/
import Draftsman.Annotation
import Draftsman.Context
import Draftsman.Fragment
import Draftsman.Node
import Draftsman.Options
import Draftsman.Vocabulary

namespace Draftsman

set_option autoImplicit false

/-- Why a description has no document. -/
inductive CompileFault where
  /-- The nesting exceeds the limit. -/
  | tooDeep (depth : Nat) (limit : Value)
  /-- A value is no node of the twelve kinds. -/
  | unsupported (kind : Value)
  /-- A predicate has no place in documents. -/
  | unknownPredicate (name : Value)
  /-- An operand cannot be converted. -/
  | conversion (fault : ConversionFault)
  /-- A value is of a type that does not fit its use. -/
  | illTyped
  /-- A value lacks a member that its use needs. -/
  | noMember
  /-- A comparison has no result. -/
  | undecided
  deriving Repr

def CompileFault.failure : CompileFault → Failure
  | tooDeep depth limit =>
      .showing (.list [.int depth, limit]) ⟨.tooDeep, "AST nesting depth " ++ toString depth ++
        " exceeds the maximum of " ++ limit.bare⟩
  | unsupported kind =>
      .showing kind ⟨.unsupportedNode, "Unsupported AST node kind: " ++ kind.written⟩
  | unknownPredicate name =>
      .showing name ⟨.unknownPredicate, "Unknown predicate: " ++ name.bare⟩
  | conversion fault => fault.failure
  | illTyped => ⟨.wrongType, ""⟩
  | noMember => ⟨.missingMember, ""⟩
  | undecided => ⟨.undecided, ""⟩

namespace Options

/-- Whether a depth is within the limit.  A limit that stands for no number decides
nothing.  One that is not a number limits nothing; as a decimal it cannot be put in
order with a depth. -/
def allow (o : Options) (depth : Nat) : Except CompileFault Unit :=
  match o.maxDepth.quantity? with
  | none => .error .illTyped
  | some (.finite limit) => if limit.below depth then .error (.tooDeep depth o.maxDepth) else .ok ()
  | some (.infinite negative) => if negative then .error (.tooDeep depth o.maxDepth) else .ok ()
  | some .nan =>
      match o.maxDepth with
      | .decimal _ => .error .undecided
      | _ => .ok ()

end Options

/-- A step that a value of the wrong type stops. -/
def typed {α : Type} : Option α → Except CompileFault α
  | some x => .ok x
  | none => .error .illTyped

def present {α : Type} : Option α → Except CompileFault α
  | some x => .ok x
  | none => .error .noMember

/-- A step that a comparison without a result stops. -/
def decided {α : Type} : Option α → Except CompileFault α
  | some x => .ok x
  | none => .error .undecided

def nullEntry : Members := Fragment.ofKeywords [("type", .str "null")]

namespace Node

/-! ## What a node stands for -/

/-- The primitive that a node stands for, null where it has no single one. -/
def concreteType : Node → Value
  | nominal primitive _ => primitive
  | predicate name operand _ =>
      if name.equal (.str "type?") then (operand.toPrimitive?.map Value.primitive).getD .null
      else .null
  | constrained type _ _ => concreteType type
  | constructor type _ _ => concreteType type
  | enum type _ _ => concreteType type
  | intersection left _ _ => concreteType left
  | array _ _ => .primitive .list
  | schema _ _ | mapping _ _ | aggregate _ _ _ => .primitive .dict
  | sum _ _ | key _ _ _ _ | lazy _ | bare _ | plain _ => .null

def foreignKind : Node → Value
  | bare _ => .str "Node"
  | plain v => .str v.typeName
  | node => .str node.kindName

/-! ## Parts of the fragments -/

/-- The name under which a predicate is looked up: those that bound a size are
renamed on the right of a list. -/
def lookupName (leftType name : Value) : Option String :=
  match leftType with
  | .primitive .list => name.text?.map sizeRenaming
  | _ => name.text?

/-- The fragment of a predicate: one keyword, or nothing. -/
def predicateFragment (o : Options) (leftType name operand : Value) :
    Except CompileFault Members :=
  if !name.isKey then .error .illTyped
  else
    match (lookupName leftType name).bind constraint? with
    | none => if o.loose.truthy then .ok [] else .error (.unknownPredicate name)
    | some c =>
        match c.reading.apply operand with
        | .error fault => .error (.conversion fault)
        | .ok v => .ok (if v.isNull then [] else Fragment.ofKeywords [(c.keyword, v)])

/-- The fragment of some different alternatives.  One alternative alone is itself; at
top level one alternative beside null is that one, marked; others are listed. -/
def sumFragment (topLevel : Bool) (results : List Members) : Members :=
  match results with
  | [only] => only
  | [a, b] =>
      if topLevel && (Fragment.equalApart a nullEntry || Fragment.equalApart b nullEntry) then
        Members.insert (.str "nullable") (.bool true)
          (if Fragment.equalApart a nullEntry then b else a)
      else Fragment.ofKeywords [("anyOf", .list [.dict a, .dict b])]
  | found => Fragment.ofKeywords [("anyOf", .list (found.map Value.dict))]

/-- The reference in force at a node: its own, or else that of the enclosing
field; null where there is none. -/
def reference (notes keyNotes : Value) : Except CompileFault Value := do
  let inherited ← present (noteOr? keyNotes "$ref" .null)
  present (noteOr? notes "$ref" inherited)

/-- The fragment of a reference to an object type.  A list's elements carry the
bare reference. -/
def objectReference (inArray : Bool) (ref : Value) : Members :=
  if inArray then Fragment.ofKeywords [("$ref", ref)]
  else Fragment.ofKeywords [("type", .str "object"), ("$ref", ref)]

/-- Takes a note away from elements that have been given it.  By itself, what is not a
number is not the same as what the elements have, so it stays; a signaling decimal
cannot be compared with it. -/
def withoutNote? (items : Members) (note : Value × Value) : Option Members :=
  if note.2.isSignaling then none
  else some (if note.2.isNotNumber then items else Members.erase note.1 items)

/-- The fragment of a list of elements, whose title and description are moved from
the elements to the list. -/
def arrayFragment (items : Members) (memberNotes : Value) : Except CompileFault Members := do
  let hoisted ← typed (annotations hoistedNames memberNotes)
  let left ← decided (hoisted.foldlM withoutNote? items)
  pure (Members.update (Fragment.ofKeywords [("type", .str "array"), ("items", .dict left)]) hoisted)

/-- The fields gathered so far: their fragments, and the names of the required
ones. -/
structure Fields where
  properties : Members := []
  required : List Value := []
  deriving Repr

namespace Fields

/-- Adds a field.  Its fragment replaces that of an earlier field of the name; a
name is required once at most. -/
def add (fields : Fields) (key : Node) (fragment : Members) : Except CompileFault Fields := do
  let name ← present key.name?
  if !name.isKey then .error .illTyped
  let properties := Members.insert name (.dict fragment) fields.properties
  let required ← present key.required?
  pure ⟨properties, if required.truthy then addNew Value.equal fields.required name else fields.required⟩

def fragment (fields : Fields) : Members :=
  Fragment.ofKeywords ([("type", .str "object"), ("properties", .dict fields.properties)] ++
    if fields.required.isEmpty then [] else [("required", .list fields.required)])

end Fields

/-! ## Visiting -/

/-- Lays the annotations of a node over its fragment. -/
def finish (notes : Value) (fragment : Members) : Except CompileFault Members :=
  typed (overlay fragment notes)

def gather (found : List Members) (fragment : Members) : Except CompileFault (List Members) :=
  decided (addNew? Fragment.same? found fragment)

def visitPlain (o : Options) (ctx : Context) (v : Value) : Except CompileFault Members := do
  o.allow ctx.depth
  .error (.unsupported (.str v.typeName))

mutual

/-- Whether the alternatives of a union can be enumerated, those of the unions
among them included. -/
def enumerable : Children → Bool
  | .nodes items => allEnumerable items
  | .value v => v.items?.isSome

def allEnumerable : List Node → Bool
  | [] => true
  | sum types notes :: rest => (notes.truthy || enumerable types) && allEnumerable rest
  | _ :: rest => allEnumerable rest

end

def visitPlains (o : Options) (ctx : Context) : List Value → Except CompileFault Unit
  | [] => .ok ()
  | v :: _ => (visitPlain o ctx v).map fun _ => ()

mutual

/-- The fragment of a node in a context. -/
def visit (o : Options) (ctx : Context) : Node → Except CompileFault Members
  | nominal primitive notes => do
      o.allow ctx.depth
      finish notes ((typeMembers? primitive).getD [])
  | constructor type _ notes => do
      o.allow ctx.depth
      let fragment ← visit o ctx.inner type
      finish notes fragment
  | constrained type rule notes => do
      o.allow ctx.depth
      let base ← visit o ctx.inner type
      let extra ← visit o (ctx.ruleFor (concreteType type)) rule
      let both ← decided (Fragment.merge? base extra)
      finish notes both
  | predicate name operand notes => do
      o.allow ctx.depth
      let fragment ← predicateFragment o ctx.leftType name operand
      finish notes fragment
  | sum types notes => do
      o.allow ctx.depth
      if !enumerable types then .error .illTyped
      let results ← visitAlternatives o ctx.alternative [] types
      finish notes (sumFragment ctx.topLevel results)
  | intersection left right notes => do
      o.allow ctx.depth
      let base ← visit o ctx.inner left
      let own := concreteType left
      let extra ← visit o (ctx.ruleFor (if own.truthy then own else ctx.leftType)) right
      let both ← decided (Fragment.merge? base extra)
      finish notes both
  | mapping fields notes => do
      o.allow ctx.depth
      let ref ← reference notes ctx.keyNotes
      if ref.isNull then
        match fields with
        | plain .null => finish notes (Fragment.ofKeywords [("type", .str "object")])
        | other => do
            let fragment ← visit o ctx.inner other
            finish notes fragment
      else finish notes (objectReference ctx.inArray ref)
  | aggregate _ fields notes => do
      o.allow ctx.depth
      let ref ← reference notes ctx.keyNotes
      if ref.isNull then
        match fields with
        | plain .null => finish notes (Fragment.ofKeywords [("type", .str "object")])
        | other => do
            let fragment ← visit o ctx.inner other
            finish notes fragment
      else finish notes (Fragment.ofKeywords [("$ref", ref)])
  | array member notes => do
      o.allow ctx.depth
      let items ← visit o ctx.element member
      let fragment ← arrayFragment items member.notes
      finish notes fragment
  | schema keys notes => do
      o.allow ctx.depth
      let ref ← reference notes ctx.keyNotes
      if ref.isNull then
        let fields ← visitKeys o ctx.inner keys
        finish notes fields.fragment
      else finish notes (objectReference ctx.inArray ref)
  | key name type _ notes => do
      o.allow ctx.depth
      let fragment ← visit o (ctx.field name notes) type
      finish notes fragment
  | enum type _ notes => do
      o.allow ctx.depth
      let fragment ← visit o ctx.inner type
      finish notes fragment
  | lazy _ => do
      o.allow ctx.depth
      .error (.unsupported (.str "lazy"))
  | bare _ => do
      o.allow ctx.depth
      .error (.unsupported (.str "Node"))
  | plain v => visitPlain o ctx v

/-- The different fragments of the alternatives in a slot, added to those found so
far. -/
def visitAlternatives (o : Options) (ctx : Context) (found : List Members) :
    Children → Except CompileFault (List Members)
  | .nodes items => visitEach o ctx found items
  | .value v => do
      let items ← typed v.items?
      visitPlains o ctx items
      pure found

/-- The different fragments of some alternatives, added to those found so far.  A union
without notes gives those of its own alternatives. -/
def visitEach (o : Options) (ctx : Context) (found : List Members) :
    List Node → Except CompileFault (List Members)
  | [] => .ok found
  | node :: rest => do
      let next ← match node with
        | sum types notes =>
            if notes.truthy then (visit o ctx (sum types notes)).bind (gather found)
            else visitAlternatives o ctx found types
        | other => (visit o ctx other).bind (gather found)
      visitEach o ctx next rest

def visitKeys (o : Options) (ctx : Context) : Children → Except CompileFault Fields
  | .nodes items => visitFields o ctx {} items
  | .value v => do
      let items ← typed v.items?
      visitPlains o ctx items
      pure {}

/-- Some fields, added to those before them. -/
def visitFields (o : Options) (ctx : Context) (found : Fields) :
    List Node → Except CompileFault Fields
  | [] => .ok found
  | node :: rest => do
      let fragment ← visit o ctx node
      let next ← found.add node fragment
      visitFields o ctx next rest

end

/-- The document of a description. -/
def compile (o : Options) (node : Node) : Except CompileFault Members := do
  let document ← visit o Context.root node
  pure (if o.root.truthy then Members.insert (.str "$schema") (.str dialect) document
    else document)

end Node

end Draftsman
