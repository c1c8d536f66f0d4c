/-
# Draftsman.Node.Loader -- descriptions from tagged trees

A tagged tree is a dictionary with the kind of its node, the fields of that kind
and, if it likes, notes.  Loading checks what the tree's format demands, from the
root down and from left to right, and stops at the first value that breaks a rule.

* `Node.load` is the node of a tree, or the fault with its place;
* `Node.build` makes one node out of the members of a dictionary and out of what
  each of them would load as (`offers`), so that loading recurses on the tree.

Members that no rule asks for are never looked at.
-/
import Draftsman.Node.Kind
import Draftsman.Node.Path
import Draftsman.Value.Written
import Draftsman.Failure

namespace Draftsman

set_option autoImplicit false

/-- The rule that a tree breaks at the place of a fault. -/
inductive LoadDefect where
  | notDict (found : Value)
  | noKind
  | badNotes
  | missing (kind : NodeKind) (field : String)
  | unknownPrimitive (found : Value)
  | noAlternatives
  | notSchema (found : Node)
  | badKeys
  | notKey

def LoadDefect.text : LoadDefect → String
  | notDict found => "expected an object, got " ++ found.typeName
  | noKind => "missing 'kind'"
  | badNotes => "expected an object"
  | missing kind field => "'" ++ kind.name ++ "' node is missing '" ++ field ++ "'"
  | unknownPrimitive found => "unknown primitive " ++ found.written
  | noAlternatives => "expected a non-empty array"
  | notSchema found => "expected a 'schema' node, got '" ++ found.kindName ++ "'"
  | badKeys => "expected an array"
  | notKey => "schema members must be 'key' nodes"

/-- The value that the wording of a broken rule shows; null for none. -/
def LoadDefect.shown : LoadDefect → Value
  | unknownPrimitive found => found
  | _ => .null

inductive LoadFault where
  /-- The tree breaks a rule. -/
  | malformed (path : Path) (defect : LoadDefect)
  /-- A node is of no kind that there is. -/
  | unsupported (kind : Value)
  /-- A value in place of a kind cannot be looked up. -/
  | badKind
  /-- A value in place of several values offers none. -/
  | badValues

def LoadFault.failure : LoadFault → Failure
  | malformed path defect =>
      .showing defect.shown ⟨.malformedTree, Path.text path ++ ": " ++ defect.text⟩
  | unsupported kind =>
      .showing kind ⟨.unsupportedNode, "Unsupported AST node kind: " ++ kind.written⟩
  | badKind | badValues => ⟨.wrongType, ""⟩

namespace Node

/-- Loads a tree that stands at a place. -/
abbrev LoadAt := Path → Except LoadFault Node

/-- What a member of a dictionary offers: the node that it loads as, and if it is a
list the nodes that its items load as. -/
structure Offer where
  node : LoadAt
  items? : Option (List LoadAt)

namespace Offer

def find? (name : String) : List (Value × Offer) → Option Offer
  | [] => none
  | (k, offer) :: rest => if (Value.str name).equal k then some offer else find? name rest

end Offer

/-- A dictionary that is about to become a node: its members, their offers, its
place and the kind that it names. -/
structure Draft where
  members : Members
  offers : List (Value × Offer)
  path : Path
  kind : NodeKind

namespace Draft

def place (draft : Draft) (name : String) : Path := draft.path ++ [.member name]

def missing (draft : Draft) (name : String) : LoadFault :=
  .malformed draft.path (.missing draft.kind name)

def field (draft : Draft) (name : String) : Except LoadFault Value :=
  match Members.get? name draft.members with
  | some v => .ok v
  | none => .error (draft.missing name)

/-- The offer of a field. -/
def offer (draft : Draft) (name : String) : Except LoadFault Offer :=
  match Offer.find? name draft.offers with
  | some offer => .ok offer
  | none => .error (draft.missing name)

def child (draft : Draft) (name : String) : Except LoadFault Node := do
  let offer ← draft.offer name
  offer.node (draft.place name)

def schemaChild (draft : Draft) : Except LoadFault Node := do
  let node ← draft.child "schema"
  if node.isSchema then pure node
  else .error (.malformed (draft.place "schema") (.notSchema node))

def primitive (draft : Draft) : Except LoadFault Primitive := do
  let v ← draft.field "primitive"
  match v.toPrimitive? with
  | some p => pure p
  | none => .error (.malformed (draft.place "primitive") (.unknownPrimitive v))

def loadItems (path : Path) : Nat → List LoadAt → Except LoadFault (List Node)
  | _, [] => .ok []
  | index, item :: rest => do
      let first ← item (path ++ [.item index])
      let others ← loadItems path (index + 1) rest
      pure (first :: others)

/-- The alternatives of a union: one at least. -/
def alternatives (draft : Draft) : Except LoadFault (List Node) := do
  let offer ← draft.offer "types"
  match offer.items? with
  | some (first :: rest) => loadItems (draft.place "types") 0 (first :: rest)
  | _ => .error (.malformed (draft.place "types") .noAlternatives)

def loadKeys (path : Path) : Nat → List LoadAt → Except LoadFault (List Node)
  | _, [] => .ok []
  | index, item :: rest => do
      let first ← item (path ++ [.item index])
      if first.isKey then
        let others ← loadKeys path (index + 1) rest
        pure (first :: others)
      else .error (.malformed (path ++ [.item index]) .notKey)

/-- The fields of a field set; none where there is no list. -/
def keys (draft : Draft) : Except LoadFault (List Node) :=
  match Offer.find? "keys" draft.offers with
  | none => .ok []
  | some offer =>
      match offer.items? with
      | some items => loadKeys (draft.place "keys") 0 items
      | none => .error (.malformed (draft.place "keys") .badKeys)

/-- The operand of a predicate.  That of a type predicate names a primitive. -/
def operand (draft : Draft) (name : Value) : Value :=
  let found := (Members.get? "operand" draft.members).getD .null
  if name.equal (.str "type?") && found.text?.isSome then
    match found.toPrimitive? with
    | some p => .primitive p
    | none => found
  else found

/-- The values of an enumeration; none where there are none. -/
def values (draft : Draft) : Except LoadFault (List Value) :=
  match Members.get? "values" draft.members with
  | none => .ok []
  | some v =>
      match v.items? with
      | some items => .ok items
      | none => .error .badValues

/-- Whether a field is required.  It is, unless it says otherwise. -/
def required (draft : Draft) : Bool :=
  ((Members.get? "required" draft.members).getD (.bool true)).truthy

def node (draft : Draft) (notes : Value) : Except LoadFault Node :=
  match draft.kind with
  | .nominal => do
      let p ← draft.primitive
      pure (nominal (.primitive p) notes)
  | .constructor => do
      let type ← draft.child "type"
      pure (constructor type .null notes)
  | .constrained => do
      let type ← draft.child "type"
      let rule ← draft.child "rule"
      pure (constrained type rule notes)
  | .predicate => do
      let name ← draft.field "name"
      pure (predicate name (draft.operand name) notes)
  | .sum => do
      let types ← draft.alternatives
      pure (sum (.nodes types) notes)
  | .intersection => do
      let left ← draft.child "left"
      let right ← draft.child "right"
      pure (intersection left right notes)
  | .mapping =>
      if ((Members.get? "schema" draft.members).getD .null).isNull then
        pure (mapping (plain .null) notes)
      else do
        let fields ← draft.schemaChild
        pure (mapping fields notes)
  | .aggregate => do
      let fields ← draft.schemaChild
      pure (aggregate ((Members.get? "name" draft.members).getD (.str "")) fields notes)
  | .array => do
      let member ← draft.child "member"
      pure (array member notes)
  | .schema => do
      let keys ← draft.keys
      pure (schema (.nodes keys) notes)
  | .key => do
      let name ← draft.field "name"
      let type ← draft.child "type"
      pure (key name type (.bool draft.required) notes)
  | .enum => do
      let type ← draft.child "type"
      let values ← draft.values
      pure (enum type (.nodes (values.map plain)) notes)

end Draft

/-- The notes of a dictionary: none where they count as false. -/
def loadNotes (members : Members) (path : Path) : Except LoadFault Value :=
  match Members.get? "meta" members with
  | none => .ok (.dict [])
  | some v =>
      if v.truthy then
        match v with
        | .dict _ => .ok v
        | _ => .error (.malformed (path ++ [.member "meta"]) .badNotes)
      else .ok (.dict [])

def build (members : Members) (offers : List (Value × Offer)) (path : Path) :
    Except LoadFault Node :=
  match Members.get? "kind" members with
  | none => .error (.malformed path .noKind)
  | some kind =>
      if kind.isKey then
        match kind.text?.bind NodeKind.ofName? with
        | none => .error (.unsupported kind)
        | some found => do
            let notes ← loadNotes members path
            Draft.node ⟨members, offers, path, found⟩ notes
      else .error .badKind

mutual

def loadAt : Value → LoadAt
  | .dict members => fun path => build members (offers members) path
  | v => fun path => .error (.malformed path (.notDict v))

/-- What the items of a list load as. -/
def itemOffers? : Value → Option (List LoadAt)
  | .list items => some (loadEach items)
  | _ => none

def loadEach : List Value → List LoadAt
  | [] => []
  | v :: rest => loadAt v :: loadEach rest

def offers : List (Value × Value) → List (Value × Offer)
  | [] => []
  | (k, v) :: rest => (k, ⟨loadAt v, itemOffers? v⟩) :: offers rest

end

/-- The node of a tagged tree. -/
def load (tree : Value) : Except LoadFault Node := loadAt tree []

end Node

end Draftsman
