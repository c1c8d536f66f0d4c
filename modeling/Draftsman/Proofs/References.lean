/-
# Draftsman.Proofs.References -- what stands behind references

Where a reference is in force at an object type or a field set, the reference takes the
place of what is inside (`visit_referred`).  `Node.withoutReferred` takes the inside away:
field sets and fields behind references are gone, everything else stays.

The main result is `compile_eq_of_withoutReferred`: descriptions that differ behind
references only have the same document or fail with the same fault, whatever stands there.
A description is visited beside the one without what is behind references, node by node
(`visit_withoutReferred`); the notes of the enclosing field go down with both.
-/
import Draftsman.Proofs.Annotations
import Draftsman.Proofs.Visiting

namespace Draftsman

set_option autoImplicit false

namespace Node

/-! ## Descriptions without what is behind references -/

mutual

/-- A description without what stands behind references.  The notes are those of the
enclosing field. -/
def withoutReferred (keyNotes : Value) : Node → Node
  | nominal primitive notes => nominal primitive notes
  | constructor type fn notes => constructor (withoutReferred keyNotes type) fn notes
  | constrained type rule notes =>
      constrained (withoutReferred keyNotes type) (withoutReferred keyNotes rule) notes
  | predicate name operand notes => predicate name operand notes
  | sum types notes => sum (withoutReferredSlot keyNotes types) notes
  | intersection left right notes =>
      intersection (withoutReferred keyNotes left) (withoutReferred keyNotes right) notes
  | mapping fields notes =>
      mapping (if refers notes keyNotes then plain .null else withoutReferred keyNotes fields) notes
  | aggregate name fields notes =>
      aggregate name (if refers notes keyNotes then plain .null else withoutReferred keyNotes fields)
        notes
  | array member notes => array (withoutReferred keyNotes member) notes
  | schema keys notes =>
      schema (if refers notes keyNotes then .nodes [] else withoutReferredSlot keyNotes keys) notes
  | key name type required notes => key name (withoutReferred notes type) required notes
  | enum type values notes => enum (withoutReferred keyNotes type) values notes
  | lazy notes => lazy notes
  | bare notes => bare notes
  | plain v => plain v

def withoutReferredSlot (keyNotes : Value) : Children → Children
  | .nodes items => .nodes (withoutReferredEach keyNotes items)
  | .value v => .value v

def withoutReferredEach (keyNotes : Value) : List Node → List Node
  | [] => []
  | node :: rest => withoutReferred keyNotes node :: withoutReferredEach keyNotes rest

end

variable {keyNotes : Value}

theorem notes_withoutReferred (node : Node) : (withoutReferred keyNotes node).notes = node.notes := by
  cases node <;> rfl

/-- What a type stands for is not behind a reference. -/
theorem concreteType_withoutReferred : ∀ node : Node,
    concreteType (withoutReferred keyNotes node) = concreteType node
  | .constructor type _ _ | .constrained type _ _ | .enum type _ _ | .intersection type _ _ =>
      concreteType_withoutReferred type
  | .nominal _ _ | .predicate _ _ _ | .sum _ _ | .mapping _ _ | .aggregate _ _ _ | .array _ _
  | .schema _ _ | .key _ _ _ _ | .lazy _ | .bare _ | .plain _ => rfl

mutual

theorem enumerable_withoutReferred : ∀ types : Children,
    enumerable (withoutReferredSlot keyNotes types) = enumerable types
  | .nodes items => allEnumerable_withoutReferred items
  | .value _ => rfl

theorem allEnumerable_withoutReferred : ∀ nodes : List Node,
    allEnumerable (withoutReferredEach keyNotes nodes) = allEnumerable nodes
  | [] => rfl
  | .sum types notes :: rest => by
      simp only [withoutReferredEach, withoutReferred, allEnumerable,
        enumerable_withoutReferred types, allEnumerable_withoutReferred rest]
  | .nominal _ _ :: rest | .constructor _ _ _ :: rest | .constrained _ _ _ :: rest
  | .predicate _ _ _ :: rest | .intersection _ _ _ :: rest | .mapping _ _ :: rest
  | .aggregate _ _ _ :: rest | .array _ _ :: rest | .schema _ _ :: rest | .key _ _ _ _ :: rest
  | .enum _ _ _ :: rest | .lazy _ :: rest | .bare _ :: rest | .plain _ :: rest =>
      allEnumerable_withoutReferred rest

end

/-- A field set takes a field by its name and by whether it is required. -/
theorem add_withoutReferred (fields : Fields) (node : Node) (fragment : Members) :
    fields.add (withoutReferred keyNotes node) fragment = fields.add node fragment := by
  cases node <;> rfl

/-! ## Visits side by side -/

/-- An object type is visited as what is inside it only where no reference is in force. -/
theorem unlessReferred_congr {notes : Value} {one other : Except CompileFault Members}
    {byReference : Value → Except CompileFault Members}
    (same : refers notes keyNotes = false → one = other) :
    (do
      let ref ← reference notes keyNotes
      if ref.isNull then one else byReference ref) =
    (do
      let ref ← reference notes keyNotes
      if ref.isNull then other else byReference ref) := by
  cases found : reference notes keyNotes with
  | error fault => rfl
  | ok ref =>
      have inForce := refers_of_reference found
      cases null : ref.isNull with
      | false => simp [bind, Except.bind, null]
      | true => simp [bind, Except.bind, null, same (by rw [inForce, null]; rfl)]

theorem visitFieldSet_withoutReferred {o : Options} {ctx : Context} {fields : Node}
    (same : visit o ctx.inner (withoutReferred keyNotes fields) = visit o ctx.inner fields) :
    visitFieldSet o ctx (withoutReferred keyNotes fields) = visitFieldSet o ctx fields := by
  cases fields with
  | plain v => rfl
  | _ => exact same

mutual

/-- A description is visited as the one without what is behind references. -/
theorem visit_withoutReferred (o : Options) : ∀ (node : Node) (ctx : Context),
    visit o ctx (withoutReferred ctx.keyNotes node) = visit o ctx node
  | .nominal _ _, _ | .predicate _ _ _, _ | .lazy _, _ | .bare _, _ | .plain _, _ => rfl
  | .constructor type fn notes, ctx => by
      have own : visit o ctx.inner (withoutReferred ctx.keyNotes type) = visit o ctx.inner type :=
        visit_withoutReferred o type ctx.inner
      simp only [withoutReferred, visit, own]
  | .constrained type rule notes, ctx => by
      have own : visit o ctx.inner (withoutReferred ctx.keyNotes type) = visit o ctx.inner type :=
        visit_withoutReferred o type ctx.inner
      have own' (left : Value) : visit o (ctx.ruleFor left) (withoutReferred ctx.keyNotes rule) =
          visit o (ctx.ruleFor left) rule := visit_withoutReferred o rule (ctx.ruleFor left)
      simp only [withoutReferred, visit, concreteType_withoutReferred, own, own']
  | .sum types notes, ctx => by
      have own (found : List Members) :
          visitAlternatives o ctx.alternative found (withoutReferredSlot ctx.keyNotes types) =
            visitAlternatives o ctx.alternative found types :=
        visitAlternatives_withoutReferred o types ctx.alternative found
      simp only [withoutReferred, visit, enumerable_withoutReferred, own]
  | .intersection left right notes, ctx => by
      have own : visit o ctx.inner (withoutReferred ctx.keyNotes left) = visit o ctx.inner left :=
        visit_withoutReferred o left ctx.inner
      have own' (type : Value) : visit o (ctx.ruleFor type) (withoutReferred ctx.keyNotes right) =
          visit o (ctx.ruleFor type) right := visit_withoutReferred o right (ctx.ruleFor type)
      simp only [withoutReferred, visit, concreteType_withoutReferred, own, own']
  | .mapping fields notes, ctx => by
      have own : visitFieldSet o ctx (withoutReferred ctx.keyNotes fields) =
          visitFieldSet o ctx fields :=
        visitFieldSet_withoutReferred (visit_withoutReferred o fields ctx.inner)
      simp only [withoutReferred, visit_mapping]
      refine bind_congr fun _ => unlessReferred_congr fun none => ?_
      rw [none, if_neg Bool.false_ne_true, own]
  | .aggregate name fields notes, ctx => by
      have own : visitFieldSet o ctx (withoutReferred ctx.keyNotes fields) =
          visitFieldSet o ctx fields :=
        visitFieldSet_withoutReferred (visit_withoutReferred o fields ctx.inner)
      simp only [withoutReferred, visit_aggregate]
      refine bind_congr fun _ => unlessReferred_congr fun none => ?_
      rw [none, if_neg Bool.false_ne_true, own]
  | .array member notes, ctx => by
      have own : visit o ctx.element (withoutReferred ctx.keyNotes member) =
          visit o ctx.element member := visit_withoutReferred o member ctx.element
      simp only [withoutReferred, visit, notes_withoutReferred, own]
  | .schema keys notes, ctx => by
      have own : visitKeys o ctx.inner (withoutReferredSlot ctx.keyNotes keys) =
          visitKeys o ctx.inner keys := visitKeys_withoutReferred o keys ctx.inner
      simp only [withoutReferred, visit]
      refine bind_congr fun _ => unlessReferred_congr fun none => ?_
      rw [none, if_neg Bool.false_ne_true, own]
  | .key name type required notes, ctx => by
      -- the notes of the field take the place of those around it
      have own : visit o (ctx.field name notes) (withoutReferred notes type) =
          visit o (ctx.field name notes) type := visit_withoutReferred o type (ctx.field name notes)
      simp only [withoutReferred, visit, own]
  | .enum type values notes, ctx => by
      have own : visit o ctx.inner (withoutReferred ctx.keyNotes type) = visit o ctx.inner type :=
        visit_withoutReferred o type ctx.inner
      simp only [withoutReferred, visit, own]

/-- The same for the alternatives in a slot. -/
theorem visitAlternatives_withoutReferred (o : Options) :
    ∀ (types : Children) (ctx : Context) (found : List Members),
      visitAlternatives o ctx found (withoutReferredSlot ctx.keyNotes types) =
        visitAlternatives o ctx found types
  | .nodes items, ctx, found => by
      simp only [withoutReferredSlot, visitAlternatives]
      exact visitEach_withoutReferred o items ctx found
  | .value _, _, _ => rfl

/-- The same for some alternatives. -/
theorem visitEach_withoutReferred (o : Options) :
    ∀ (nodes : List Node) (ctx : Context) (found : List Members),
      visitEach o ctx found (withoutReferredEach ctx.keyNotes nodes) = visitEach o ctx found nodes
  | [], _, _ => rfl
  | node :: rest, ctx, found => by
      have own := visit_withoutReferred o node ctx
      have first : visitAlternative o ctx found (withoutReferred ctx.keyNotes node) =
          visitAlternative o ctx found node := by
        cases node with
        | sum types notes =>
            have flat := visitAlternatives_withoutReferred o types ctx found
            rw [withoutReferred] at own ⊢
            rw [visitAlternative, visitAlternative, own, flat]
        | _ => exact congrArg (Except.bind · (gather found)) own
      rw [withoutReferredEach, visitEach_cons, visitEach_cons, first]
      exact bind_congr fun next => visitEach_withoutReferred o rest ctx next

/-- The same for the fields in a slot. -/
theorem visitKeys_withoutReferred (o : Options) : ∀ (keys : Children) (ctx : Context),
    visitKeys o ctx (withoutReferredSlot ctx.keyNotes keys) = visitKeys o ctx keys
  | .nodes items, ctx => by
      simp only [withoutReferredSlot, visitKeys]
      exact visitFields_withoutReferred o items ctx {}
  | .value _, _ => rfl

/-- The same for some fields. -/
theorem visitFields_withoutReferred (o : Options) :
    ∀ (nodes : List Node) (ctx : Context) (found : Fields),
      visitFields o ctx found (withoutReferredEach ctx.keyNotes nodes) =
        visitFields o ctx found nodes
  | [], _, _ => rfl
  | node :: rest, ctx, found => by
      simp only [withoutReferredEach, visitFields, visit_withoutReferred o node ctx,
        add_withoutReferred]
      refine bind_congr fun fragment => bind_congr fun next => ?_
      exact visitFields_withoutReferred o rest ctx next

end

/-! ## References -/

/-- Whether a reference can take the place of what is inside a node. -/
def isReferable : Node → Bool
  | mapping _ _ | aggregate _ _ _ | schema _ _ => true
  | _ => false

/-- A reference in force stands in the fragment of its node, and no fields do. -/
theorem visit_referred {o : Options} {ctx : Context} {node : Node} {fragment : Members}
    (referable : node.isReferable = true) (inForce : refers node.notes ctx.keyNotes = true)
    (visited : visit o ctx node = .ok fragment) :
    ∃ ref, reference node.notes ctx.keyNotes = .ok ref ∧ ref.isNull = false ∧
      Members.get? "$ref" fragment = some ref ∧ Members.get? "properties" fragment = none := by
  -- each of the three lays its notes over the reference, with or without a type beside it
  have byReference {inside : Except CompileFault Members} {inArray : Bool} {ref : Value}
      (found : reference node.notes ctx.keyNotes = .ok ref)
      (chosen : (if ref.isNull then inside
        else finish node.notes (objectReference inArray ref)) = .ok fragment) :
      ∃ ref, reference node.notes ctx.keyNotes = .ok ref ∧ ref.isNull = false ∧
        Members.get? "$ref" fragment = some ref ∧ Members.get? "properties" fragment = none := by
    have some : ref.isNull = false := by simpa [inForce] using refers_of_reference found
    rw [some, if_neg Bool.false_ne_true] at chosen
    have noted := typed_eq_ok.mp chosen
    refine ⟨ref, found, some, ?_, ?_⟩
    · rw [get?_overlay noted (by decide)]
      cases inArray <;> rfl
    · rw [get?_overlay noted (by decide)]
      cases inArray <;> rfl
  cases node with
  | mapping fields notes =>
      simp only [visit_mapping, bind_eq_ok] at visited
      obtain ⟨-, -, ref, found, chosen⟩ := visited
      exact byReference found chosen
  | aggregate name fields notes =>
      simp only [visit_aggregate, bind_eq_ok] at visited
      obtain ⟨-, -, ref, found, chosen⟩ := visited
      exact byReference found chosen
  | schema keys notes =>
      simp only [visit, bind_eq_ok] at visited
      obtain ⟨-, -, ref, found, chosen⟩ := visited
      exact byReference found chosen
  | _ => cases referable

/-- Descriptions that differ behind references only have the same outcome. -/
theorem compile_eq_of_withoutReferred (o : Options) {one other : Node}
    (same : withoutReferred (.dict []) one = withoutReferred (.dict []) other) :
    one.compile o = other.compile o := by
  have alike (node : Node) :
      visit o Context.root (withoutReferred (.dict []) node) = visit o Context.root node :=
    visit_withoutReferred o node Context.root
  rw [compile, compile, ← alike one, ← alike other, same]

/-- A field set with one field, which lists objects or nothing under a reference.  What the
objects hold is left open. -/
def parcelNode (inside : Node) : Node :=
  schema (.nodes [key (.str "senders")
    (array (sum (.nodes [mapping inside (.dict []), nominal (.primitive .null) (.dict [])])
      (.dict [])) (.dict [])) (.bool true)
    (.dict (Members.named [("$ref", .str "#/definitions/party")]))]) (.dict [])

theorem compile_eq_of_withoutReferred_parcel :
    withoutReferred (.dict []) (parcelNode (predicate (.str "palindrome?") .null (.dict []))) =
        withoutReferred (.dict []) (parcelNode (lazy (.dict []))) ∧
      (parcelNode (predicate (.str "palindrome?") .null (.dict []))).compile {} =
        (parcelNode (lazy (.dict []))).compile {} :=
  ⟨rfl, compile_eq_of_withoutReferred {} rfl⟩

end Node

end Draftsman
