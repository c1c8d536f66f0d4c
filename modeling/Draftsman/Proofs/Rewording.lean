/-
# Draftsman.Proofs.Rewording -- descriptions that are compiled alike

Besides other nodes a node holds a few values: a primitive, an operand, a name, a function,
notes.  A rewording puts other values in their place, node by node (`Node.reword`), and
leaves the tree as it is.  What stands in a node may be put another way at one position and not
at another: on the left of a rule, among the alternatives of a union, among the fields of a
field set (`Position`).

A rewording is faithful (`Rewording.Faithful`) if none of its new values can be told from
the old one where it is used.  The main result is `compile_reword`: a faithful rewording of a
description has the document of the description, or fails with the same fault.  Both are
visited side by side (`visit_reword`), in contexts that differ as the descriptions do.
-/
import Draftsman.Proofs.Visiting

namespace Draftsman

set_option autoImplicit false

/-- Notes that bring the same into a document. -/
structure SameRemarks (m n : Value) : Prop where
  laid : annotations annotationNames m = annotations annotationNames n
  hoisted : annotations hoistedNames m = annotations hoistedNames n
  referred : ∀ fallback, noteOr? m "$ref" fallback = noteOr? n "$ref" fallback

namespace SameRemarks

variable {m n : Value}

theorem refl (notes : Value) : SameRemarks notes notes := ⟨rfl, rfl, fun _ => rfl⟩

theorem finish (same : SameRemarks m n) (fragment : Members) :
    Node.finish m fragment = Node.finish n fragment := by
  rw [Node.finish, Node.finish, overlay, overlay, same.laid]

theorem arrayFragment (same : SameRemarks m n) (items : Members) :
    Node.arrayFragment items m = Node.arrayFragment items n := by
  rw [Node.arrayFragment, Node.arrayFragment, same.hoisted]

theorem reference {outer outer' : Value} (same : SameRemarks m n)
    (around : SameRemarks outer outer') : Node.reference m outer = Node.reference n outer' := by
  simp only [Node.reference, same.referred, around.referred]

end SameRemarks

namespace Node

/-- Where a node stands in the node above it. -/
inductive Position where
  /-- On the left of a rule, or below the node there that it gives its primitive to. -/
  | left
  /-- Among the alternatives of a union. -/
  | among
  /-- Among the fields of a field set. -/
  | member
  /-- In any other slot. -/
  | other
  deriving DecidableEq, Repr

/-- The position of a type in a node that stands for the same primitive. -/
def Position.wrapped : Position → Position
  | left => left
  | _ => other

/-- New values in place of those that nodes hold. -/
structure Rewording where
  /-- A primitive, by its position. -/
  primitive : Position → Value → Value := fun _ primitive => primitive
  /-- The operand of a predicate of a name. -/
  operand : Value → Value → Value := fun _ operand => operand
  /-- The function of a constructor. -/
  fn : Value → Value := id
  /-- The name of an object type, by its position. -/
  title : Position → Value → Value := fun _ name => name
  /-- The listed values of an enumeration. -/
  values : Children → Children := id
  /-- The notes of any node but a union. -/
  notes : Value → Value := id
  /-- The notes of a union, by its position. -/
  unionNotes : Position → Value → Value := fun _ notes => notes

mutual

/-- A description put another way.  The position is that of its root. -/
def reword (r : Rewording) (position : Position) : Node → Node
  | nominal primitive notes => nominal (r.primitive position primitive) (r.notes notes)
  | constructor type fn notes =>
      constructor (reword r position.wrapped type) (r.fn fn) (r.notes notes)
  | constrained type rule notes =>
      constrained (reword r .left type) (reword r .other rule) (r.notes notes)
  | predicate name operand notes => predicate name (r.operand name operand) (r.notes notes)
  | sum types notes => sum (rewordSlot r .among types) (r.unionNotes position notes)
  | intersection left right notes =>
      intersection (reword r .left left) (reword r .other right) (r.notes notes)
  | mapping fields notes => mapping (reword r .other fields) (r.notes notes)
  | aggregate name fields notes =>
      aggregate (r.title position name) (reword r .other fields) (r.notes notes)
  | array member notes => array (reword r .other member) (r.notes notes)
  | schema keys notes => schema (rewordSlot r .member keys) (r.notes notes)
  | key name type required notes => key name (reword r .other type) required (r.notes notes)
  | enum type values notes =>
      enum (reword r position.wrapped type) (r.values values) (r.notes notes)
  | lazy notes => lazy (r.notes notes)
  | bare notes => bare (r.notes notes)
  | plain v => plain v

def rewordSlot (r : Rewording) (position : Position) : Children → Children
  | .nodes items => .nodes (rewordEach r position items)
  | .value v => .value v

def rewordEach (r : Rewording) (position : Position) : List Node → List Node
  | [] => []
  | node :: rest => reword r position node :: rewordEach r position rest

end

namespace Rewording

/-- A rewording whose new values serve as the old ones do, each where it is used. -/
structure Faithful (r : Rewording) : Prop where
  entry : ∀ position v, typeMembers? (r.primitive position v) = typeMembers? v
  left_null : r.primitive .left .null = .null
  left_primitive : ∀ p : Primitive, r.primitive .left (.primitive p) = .primitive p
  left_truthy : ∀ v, (r.primitive .left v).truthy = v.truthy
  standsFor : ∀ name operand, (r.operand name operand).toPrimitive? = operand.toPrimitive?
  predicate : ∀ (o : Options) left name operand,
    predicateFragment o (r.primitive .left left) name (r.operand name operand) =
      predicateFragment o left name operand
  title : ∀ name, r.title .member name = name
  root : r.notes (.dict []) = .dict []
  notes : ∀ notes, SameRemarks (r.notes notes) notes
  unionNotes : ∀ position notes, SameRemarks (r.unionNotes position notes) notes
  among_truthy : ∀ notes, (r.unionNotes .among notes).truthy = notes.truthy

def around (r : Rewording) (ctx : Context) : Context :=
  { ctx with keyNotes := r.notes ctx.keyNotes, leftType := r.primitive .left ctx.leftType }

variable {r : Rewording}

theorem Faithful.around_root (faithful : r.Faithful) : r.around Context.root = Context.root := by
  simp [around, Context.root, faithful.root, faithful.left_null]

theorem Faithful.around_element (faithful : r.Faithful) (ctx : Context) :
    r.around ctx.element = (r.around ctx).element := by
  simp [around, Context.element, Context.descend, Context.change, faithful.left_null]

theorem Faithful.around_field (faithful : r.Faithful) (ctx : Context) (name notes : Value) :
    r.around (ctx.field name notes) = (r.around ctx).field name (r.notes notes) := by
  simp [around, Context.field, Context.descend, Context.change, faithful.left_null]

end Rewording

variable {r : Rewording}

/-! ## What is read off a tree -/

theorem sameRemarks_reword (faithful : r.Faithful) (position : Position) (node : Node) :
    SameRemarks (reword r position node).notes node.notes := by
  cases node with
  | sum types notes => exact faithful.unionNotes position notes
  | plain v => exact SameRemarks.refl _
  | _ => exact faithful.notes _

/-- On the left of a rule a node stands for its primitive put another way. -/
theorem concreteType_reword (faithful : r.Faithful) : ∀ node : Node,
    concreteType (reword r .left node) = r.primitive .left (concreteType node)
  | .nominal _ _ => rfl
  | .predicate name operand notes => by
      simp only [reword, concreteType, faithful.standsFor]
      split
      · cases operand.toPrimitive? with
        | none => exact faithful.left_null.symm
        | some p => exact (faithful.left_primitive p).symm
      · exact faithful.left_null.symm
  | .constructor type _ _ | .constrained type _ _ | .enum type _ _ | .intersection type _ _ =>
      concreteType_reword faithful type
  | .array _ _ | .schema _ _ | .mapping _ _ | .aggregate _ _ _ => (faithful.left_primitive _).symm
  | .sum _ _ | .key _ _ _ _ | .lazy _ | .bare _ | .plain _ => faithful.left_null.symm

mutual

theorem enumerable_reword (faithful : r.Faithful) : ∀ types : Children,
    enumerable (rewordSlot r .among types) = enumerable types
  | .nodes items => allEnumerable_reword faithful items
  | .value _ => rfl

theorem allEnumerable_reword (faithful : r.Faithful) : ∀ nodes : List Node,
    allEnumerable (rewordEach r .among nodes) = allEnumerable nodes
  | [] => rfl
  | .sum types notes :: rest => by
      simp only [rewordEach, reword, allEnumerable, faithful.among_truthy,
        enumerable_reword faithful types, allEnumerable_reword faithful rest]
  | .nominal _ _ :: rest | .constructor _ _ _ :: rest | .constrained _ _ _ :: rest
  | .predicate _ _ _ :: rest | .intersection _ _ _ :: rest | .mapping _ _ :: rest
  | .aggregate _ _ _ :: rest | .array _ _ :: rest | .schema _ _ :: rest | .key _ _ _ _ :: rest
  | .enum _ _ _ :: rest | .lazy _ :: rest | .bare _ :: rest | .plain _ :: rest =>
      allEnumerable_reword faithful rest

end

/-- A field set takes a field by its name and by whether it is required. -/
theorem add_reword (faithful : r.Faithful) (fields : Fields) (node : Node) (fragment : Members) :
    fields.add (reword r .member node) fragment = fields.add node fragment := by
  cases node with
  | aggregate name inside notes => simp only [reword, Fields.add, name?, required?, faithful.title]
  | _ => rfl

/-! ## Visits side by side -/

/-- The reference that is in force at a node is that of the description put another way. -/
theorem reference_reword (faithful : r.Faithful) (notes : Value) (ctx : Context) :
    reference (r.notes notes) (r.around ctx).keyNotes = reference notes ctx.keyNotes :=
  (faithful.notes notes).reference (faithful.notes ctx.keyNotes)

/-- A value in the place of a node fails by its depth and its type alone. -/
theorem visitPlains_around (r : Rewording) (o : Options) (ctx : Context) (values : List Value) :
    visitPlains o (r.around ctx) values = visitPlains o ctx values := by
  cases values <;> rfl

theorem visitFieldSet_reword {o : Options} {ctx ctx' : Context} {fields : Node}
    (same : visit o ctx'.inner (reword r .other fields) = visit o ctx.inner fields) :
    visitFieldSet o ctx' (reword r .other fields) = visitFieldSet o ctx fields := by
  cases fields with
  | plain v =>
      cases v with
      | null => rfl
      | _ => exact same
  | _ => exact same

mutual

/-- A description put another way is visited as the description itself. -/
theorem visit_reword (faithful : r.Faithful) (o : Options) :
    ∀ (node : Node) (ctx : Context) (position : Position),
      visit o (r.around ctx) (reword r position node) = visit o ctx node
  | .nominal primitive notes, ctx, position => by
      simp only [reword, visit, faithful.entry, (faithful.notes notes).finish]
      rfl
  | .constructor type fn notes, ctx, position => by
      have own : visit o (r.around ctx).inner (reword r position.wrapped type) =
          visit o ctx.inner type := visit_reword faithful o type ctx.inner position.wrapped
      simp only [reword, visit, own, (faithful.notes notes).finish]
      rfl
  | .constrained type rule notes, ctx, position => by
      have own : visit o (r.around ctx).inner (reword r .left type) = visit o ctx.inner type :=
        visit_reword faithful o type ctx.inner .left
      have own' (left : Value) :
          visit o ((r.around ctx).ruleFor (r.primitive .left left)) (reword r .other rule) =
            visit o (ctx.ruleFor left) rule :=
        visit_reword faithful o rule (ctx.ruleFor left) .other
      simp only [reword, visit, concreteType_reword faithful, own, own',
        (faithful.notes notes).finish]
      rfl
  | .predicate name operand notes, ctx, position => by
      have own : predicateFragment o (r.around ctx).leftType name (r.operand name operand) =
          predicateFragment o ctx.leftType name operand := faithful.predicate o _ name operand
      simp only [reword, visit, own, (faithful.notes notes).finish]
      rfl
  | .sum types notes, ctx, position => by
      have own (found : List Members) :
          visitAlternatives o (r.around ctx).alternative found (rewordSlot r .among types) =
            visitAlternatives o ctx.alternative found types :=
        visitAlternatives_reword faithful o types ctx.alternative found
      simp only [reword, visit, enumerable_reword faithful, own,
        (faithful.unionNotes position notes).finish]
      rfl
  | .intersection left right notes, ctx, position => by
      have own : visit o (r.around ctx).inner (reword r .left left) = visit o ctx.inner left :=
        visit_reword faithful o left ctx.inner .left
      -- the right side is a rule for what the left one stands for, or else for what is around
      have chosen (type : Value) :
          (if (r.primitive .left type).truthy then r.primitive .left type
            else (r.around ctx).leftType) =
          r.primitive .left (if type.truthy then type else ctx.leftType) := by
        rw [faithful.left_truthy]
        split <;> rfl
      have own' (type : Value) :
          visit o ((r.around ctx).ruleFor (r.primitive .left type)) (reword r .other right) =
            visit o (ctx.ruleFor type) right :=
        visit_reword faithful o right (ctx.ruleFor type) .other
      simp only [reword, visit, concreteType_reword faithful, chosen, own, own',
        (faithful.notes notes).finish]
      rfl
  | .mapping fields notes, ctx, position => by
      have own : visitFieldSet o (r.around ctx) (reword r .other fields) =
          visitFieldSet o ctx fields :=
        visitFieldSet_reword (visit_reword faithful o fields ctx.inner .other)
      have finished : finish (r.notes notes) = finish notes := funext (faithful.notes notes).finish
      simp only [reword, visit_mapping, own, reference_reword faithful, finished]
      rfl
  | .aggregate name fields notes, ctx, position => by
      have own : visitFieldSet o (r.around ctx) (reword r .other fields) =
          visitFieldSet o ctx fields :=
        visitFieldSet_reword (visit_reword faithful o fields ctx.inner .other)
      have finished : finish (r.notes notes) = finish notes := funext (faithful.notes notes).finish
      simp only [reword, visit_aggregate, own, reference_reword faithful, finished]
      rfl
  | .array member notes, ctx, position => by
      have own : visit o (r.around ctx).element (reword r .other member) =
          visit o ctx.element member := by
        rw [← faithful.around_element]
        exact visit_reword faithful o member ctx.element .other
      simp only [reword, visit, own, (sameRemarks_reword faithful _ member).arrayFragment,
        (faithful.notes notes).finish]
      rfl
  | .schema keys notes, ctx, position => by
      have own : visitKeys o (r.around ctx).inner (rewordSlot r .member keys) =
          visitKeys o ctx.inner keys := visitKeys_reword faithful o keys ctx.inner
      simp only [reword, visit, own, reference_reword faithful, (faithful.notes notes).finish]
      rfl
  | .key name type required notes, ctx, position => by
      have own : visit o ((r.around ctx).field name (r.notes notes)) (reword r .other type) =
          visit o (ctx.field name notes) type := by
        rw [← faithful.around_field]
        exact visit_reword faithful o type (ctx.field name notes) .other
      simp only [reword, visit, own, (faithful.notes notes).finish]
      rfl
  | .enum type values notes, ctx, position => by
      have own : visit o (r.around ctx).inner (reword r position.wrapped type) =
          visit o ctx.inner type := visit_reword faithful o type ctx.inner position.wrapped
      simp only [reword, visit, own, (faithful.notes notes).finish]
      rfl
  | .lazy _, _, _ | .bare _, _, _ | .plain _, _, _ => rfl

/-- The same for the alternatives in a slot. -/
theorem visitAlternatives_reword (faithful : r.Faithful) (o : Options) :
    ∀ (types : Children) (ctx : Context) (found : List Members),
      visitAlternatives o (r.around ctx) found (rewordSlot r .among types) =
        visitAlternatives o ctx found types
  | .nodes items, ctx, found => by
      simp only [rewordSlot, visitAlternatives]
      exact visitEach_reword faithful o items ctx found
  | .value v, ctx, found => by
      simp only [rewordSlot, visitAlternatives, visitPlains_around]

/-- The same for some alternatives. -/
theorem visitEach_reword (faithful : r.Faithful) (o : Options) :
    ∀ (nodes : List Node) (ctx : Context) (found : List Members),
      visitEach o (r.around ctx) found (rewordEach r .among nodes) = visitEach o ctx found nodes
  | [], _, _ => rfl
  | node :: rest, ctx, found => by
      have own := visit_reword faithful o node ctx .among
      have first : visitAlternative o (r.around ctx) found (reword r .among node) =
          visitAlternative o ctx found node := by
        cases node with
        | sum types notes =>
            have flat := visitAlternatives_reword faithful o types ctx found
            rw [reword] at own ⊢
            rw [visitAlternative, visitAlternative, own, flat, faithful.among_truthy]
        | _ => exact congrArg (Except.bind · (gather found)) own
      rw [rewordEach, visitEach_cons, visitEach_cons, first]
      exact bind_congr fun next => visitEach_reword faithful o rest ctx next

/-- The same for the fields in a slot. -/
theorem visitKeys_reword (faithful : r.Faithful) (o : Options) :
    ∀ (keys : Children) (ctx : Context),
      visitKeys o (r.around ctx) (rewordSlot r .member keys) = visitKeys o ctx keys
  | .nodes items, ctx => by
      simp only [rewordSlot, visitKeys]
      exact visitFields_reword faithful o items ctx {}
  | .value v, ctx => by
      simp only [rewordSlot, visitKeys, visitPlains_around]

/-- The same for some fields. -/
theorem visitFields_reword (faithful : r.Faithful) (o : Options) :
    ∀ (nodes : List Node) (ctx : Context) (found : Fields),
      visitFields o (r.around ctx) found (rewordEach r .member nodes) =
        visitFields o ctx found nodes
  | [], _, _ => rfl
  | node :: rest, ctx, found => by
      simp only [rewordEach, visitFields, visit_reword faithful o node ctx .member,
        add_reword faithful]
      refine bind_congr fun fragment => bind_congr fun next => ?_
      exact visitFields_reword faithful o rest ctx next

end

/-- A description put another way faithfully has the outcome of the description. -/
theorem compile_reword (faithful : r.Faithful) (o : Options) (node : Node) :
    (reword r .other node).compile o = node.compile o := by
  have visited := visit_reword faithful o node Context.root .other
  rw [faithful.around_root] at visited
  rw [compile, compile, visited]

end Node

end Draftsman
