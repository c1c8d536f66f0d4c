/-
# Draftsman.Proofs.Fallback -- the type on the left is only a fallback

A rule bounds the values of the type on its left, and that type is handed down with the
context.  Only what stands for no type of its own looks at it: a predicate, and what is made of
predicates.  A node that stands for a primitive hands down its own type to the rules in it, and
lists and fields hand down none.  So such a node has the same fragment, or the same fault, to
the right of every type (`visit_onRightOf`).

This takes slots that hold what they should (`isShaped`): a primitive where one is named, fields
in a field set.  A text in the place of a primitive stands for itself, and an empty one is
passed over.
-/
import Draftsman.Proofs.Nesting

namespace Draftsman

set_option autoImplicit false

namespace Context

/-- A context moved to the right of another type. -/
def onRightOf (ctx : Context) (primitive : Value) : Context := { ctx with leftType := primitive }

variable (ctx : Context) (primitive : Value)

@[simp] theorem depth_onRightOf : (ctx.onRightOf primitive).depth = ctx.depth := rfl

@[simp] theorem keyNotes_onRightOf : (ctx.onRightOf primitive).keyNotes = ctx.keyNotes := rfl

@[simp] theorem inArray_onRightOf : (ctx.onRightOf primitive).inArray = ctx.inArray := rfl

/-- A wrapped type stands to the right of the same type. -/
@[simp] theorem inner_onRightOf : (ctx.onRightOf primitive).inner = ctx.inner.onRightOf primitive :=
  rfl

/-- A rule stands to the right of the type that it is for. -/
@[simp] theorem ruleFor_onRightOf (own : Value) :
    (ctx.onRightOf primitive).ruleFor own = ctx.ruleFor own := rfl

theorem ruleFor_eq : ctx.ruleFor primitive = ctx.inner.onRightOf primitive := rfl

/-- The elements of a list stand to the right of none. -/
@[simp] theorem element_onRightOf : (ctx.onRightOf primitive).element = ctx.element := rfl

/-- The type of a field stands to the right of none. -/
@[simp] theorem field_onRightOf (name notes : Value) :
    (ctx.onRightOf primitive).field name notes = ctx.field name notes := rfl

end Context

namespace Node

/-! ## Slots that say what a node stands for -/

def isPrimitive : Value → Bool
  | .primitive _ => true
  | _ => false

/-- Whether the slots of a node that are for primitives, field sets and fields hold them.  An
object type may have no field set. -/
def isShaped : Node → Bool
  | nominal primitive _ => isPrimitive primitive
  | mapping fields _ | aggregate _ fields _ => fields.isSchema || fields.isPlain
  | schema (.nodes keys) _ => keys.all isKey
  | _ => true

/-- A node of which every part has the slots that it should have. -/
def Shaped (node : Node) : Prop := ∀ part ∈ node.parts, part.isShaped = true

variable {node inside : Node}

theorem Shaped.own (shaped : node.Shaped) (known : node.isNode = true) : node.isShaped = true :=
  shaped node (mem_parts_self known)

theorem Shaped.child (shaped : node.Shaped) (held : Child node inside) : inside.Shaped :=
  fun part below => shaped part (held.parts part below)

/-- A well-shaped node stands for a primitive, or for nothing. -/
theorem concreteType_cases : ∀ {node : Node}, node.Shaped →
    concreteType node = .null ∨ ∃ p, concreteType node = .primitive p
  | nominal primitive notes, shaped => by
      have own : isPrimitive primitive = true := shaped.own rfl
      cases primitive with
      | primitive p => exact .inr ⟨p, rfl⟩
      | _ => cases own
  | predicate name operand notes, shaped => by
      rw [concreteType]
      split
      · cases operand.toPrimitive? with
        | none => exact .inl rfl
        | some p => exact .inr ⟨p, rfl⟩
      · exact .inl rfl
  | constrained type _ _, shaped => @concreteType_cases type (shaped.child .type)
  | constructor type _ _, shaped => @concreteType_cases type (shaped.child .constructor)
  | enum type _ _, shaped => @concreteType_cases type (shaped.child .enum)
  | intersection left _ _, shaped => @concreteType_cases left (shaped.child .left)
  | array member notes, shaped => .inr ⟨.list, rfl⟩
  | schema keys notes, shaped | mapping fields notes, shaped
  | aggregate name fields notes, shaped => .inr ⟨.dict, rfl⟩
  | sum types notes, shaped | key name type required notes, shaped | lazy notes, shaped
  | bare notes, shaped | plain v, shaped => .inl rfl

/-- A node that stands for something stands for what counts as true. -/
theorem truthy_concreteType (shaped : node.Shaped) (typed : (concreteType node).isNull = false) :
    (concreteType node).truthy = true := by
  rcases concreteType_cases shaped with none | ⟨p, own⟩
  · simp [none, Value.isNull] at typed
  · simp [own, Value.truthy]

/-! ## Visits to the right of another type -/

variable {o : Options} {ctx : Context} (primitive : Value)

/-- A field has the same fragment to the right of every type. -/
theorem visit_field_onRightOf (known : node.isKey = true) :
    visit o (ctx.onRightOf primitive) node = visit o ctx node := by
  cases node with
  | key name type required notes => simp only [visit, Context.depth_onRightOf,
      Context.field_onRightOf]
  | _ => cases known

theorem visitFields_onRightOf {keys : List Node} (known : ∀ key ∈ keys, key.isKey = true)
    (found : Fields) :
    visitFields o (ctx.onRightOf primitive) found keys = visitFields o ctx found keys := by
  induction keys generalizing found with
  | nil => rfl
  | cons key rest ih =>
      obtain ⟨own, others⟩ := List.forall_mem_cons.mp known
      simp only [visitFields, visit_field_onRightOf primitive own, ih others]

theorem visitKeys_onRightOf {keys : Children} {notes : Value}
    (shaped : (schema keys notes).isShaped = true) :
    visitKeys o (ctx.onRightOf primitive) keys = visitKeys o ctx keys := by
  cases keys with
  | nodes items => exact visitFields_onRightOf primitive (List.all_eq_true.mp shaped) {}
  | value v =>
      rw [visitKeys, visitKeys]
      cases v.items? with
      | none => rfl
      | some items => cases items <;> rfl

/-- A field set has the same fragment to the right of every type. -/
theorem visit_schema_onRightOf {keys : Children} {notes : Value}
    (shaped : (schema keys notes).isShaped = true) :
    visit o (ctx.onRightOf primitive) (schema keys notes) = visit o ctx (schema keys notes) := by
  simp only [visit, Context.depth_onRightOf, Context.keyNotes_onRightOf,
    Context.inArray_onRightOf, Context.inner_onRightOf, visitKeys_onRightOf primitive shaped]

/-- What stands in the slot for a field set has the same fragment to the right of every type. -/
theorem visitFieldSet_onRightOf {fields : Node} (shaped : fields.Shaped)
    (fits : (fields.isSchema || fields.isPlain) = true) :
    visitFieldSet o (ctx.onRightOf primitive) fields = visitFieldSet o ctx fields := by
  cases fields with
  | schema keys notes =>
      simp only [visitFieldSet, Context.inner_onRightOf]
      exact visit_schema_onRightOf primitive (shaped.own rfl)
  | plain v => cases v <;> rfl
  | _ => cases fits

/-- A predicate that gives a type is looked up alike to the right of every type. -/
theorem lookupName_of_type {name : Value} (same : name.equal (.str "type?") = true)
    (leftType : Value) : lookupName leftType name = some "type?" := by
  have text := Value.text?_of_equal_str same
  simp only [lookupName, text]
  split <;> rfl

theorem predicateFragment_of_type {name : Value} (same : name.equal (.str "type?") = true)
    (leftType other operand : Value) :
    predicateFragment o leftType name operand = predicateFragment o other name operand := by
  simp only [predicateFragment, lookupName_of_type same]

/-- The context on the right of a node: that of a rule for what the node stands for, or else for
what it stands to the right of itself. -/
def rightOf (ctx : Context) (left : Node) : Context :=
  ctx.ruleFor (if (concreteType left).truthy then concreteType left else ctx.leftType)

theorem visit_intersection (o : Options) (ctx : Context) (left right : Node) (notes : Value) :
    visit o ctx (intersection left right notes) = (do
      o.allow ctx.depth
      let base ← visit o ctx.inner left
      let extra ← visit o (rightOf ctx left) right
      let both ← decided (Fragment.merge? base extra)
      finish notes both) := rfl

theorem rightOf_typed {left : Node} (typed : (concreteType left).truthy = true) :
    rightOf ctx left = ctx.ruleFor (concreteType left) := by
  rw [rightOf, if_pos typed]

/-- A node that stands for nothing leaves the type on the left to the next. -/
theorem rightOf_untyped {left : Node} (none : concreteType left = .null) :
    rightOf ctx left = ctx.inner := by
  rw [rightOf, none]
  rfl

/-- A node that stands for a primitive has the same fragment to the right of every type. -/
theorem visit_onRightOf : ∀ {node : Node}, node.Shaped → (concreteType node).isNull = false →
    ∀ (ctx : Context), visit o (ctx.onRightOf primitive) node = visit o ctx node
  | nominal own notes, shaped, typed, ctx => rfl
  | constructor type fn notes, shaped, typed, ctx => by
      simp only [visit, Context.depth_onRightOf, Context.inner_onRightOf,
        visit_onRightOf (shaped.child .constructor) typed]
  | enum type values notes, shaped, typed, ctx => by
      simp only [visit, Context.depth_onRightOf, Context.inner_onRightOf,
        visit_onRightOf (shaped.child .enum) typed]
  | constrained type rule notes, shaped, typed, ctx => by
      simp only [visit, Context.depth_onRightOf, Context.inner_onRightOf,
        Context.ruleFor_onRightOf, visit_onRightOf (shaped.child .type) typed]
  | intersection left right notes, shaped, typed, ctx => by
      have own := truthy_concreteType (shaped.child .left) typed
      simp only [visit_intersection, Context.depth_onRightOf, Context.inner_onRightOf,
        Context.ruleFor_onRightOf, visit_onRightOf (shaped.child .left) typed, rightOf_typed own]
  | predicate name operand notes, shaped, typed, ctx => by
      have gives : name.equal (.str "type?") = true := by
        by_contra other
        simp [concreteType, other, Value.isNull] at typed
      simp only [visit, Context.depth_onRightOf, predicateFragment_of_type gives _ ctx.leftType]
  | array member notes, shaped, typed, ctx => by
      simp only [visit, Context.depth_onRightOf, Context.element_onRightOf]
  | schema keys notes, shaped, typed, ctx => visit_schema_onRightOf primitive (shaped.own rfl)
  | mapping fields notes, shaped, typed, ctx => by
      have below : fields.Shaped := fun part held => shaped part (List.mem_cons_of_mem _ held)
      simp only [visit_mapping, Context.depth_onRightOf, Context.keyNotes_onRightOf,
        Context.inArray_onRightOf, visitFieldSet_onRightOf primitive below (shaped.own rfl)]
  | aggregate name fields notes, shaped, typed, ctx => by
      have below : fields.Shaped := fun part held => shaped part (List.mem_cons_of_mem _ held)
      simp only [visit_aggregate, Context.depth_onRightOf, Context.keyNotes_onRightOf,
        visitFieldSet_onRightOf primitive below (shaped.own rfl)]
  | sum types notes, shaped, typed, ctx | key name type required notes, shaped, typed, ctx
  | lazy notes, shaped, typed, ctx | bare notes, shaped, typed, ctx
  | plain v, shaped, typed, ctx => by cases typed

/-- The type on the left is only a fallback.  In two contexts that differ in it alone, a node that
stands for a primitive has the same fragment, or the same fault. -/
theorem visit_beside (o : Options) {node : Node} (shaped : node.Shaped)
    (typed : (concreteType node).isNull = false) {first second : Context}
    (beside : first.onRightOf second.leftType = second) :
    visit o first node = visit o second node := by
  rw [← beside, visit_onRightOf second.leftType shaped typed]

def filledListNode : Node :=
  constrained (array (nominal (.primitive .string) (.dict [])) (.dict []))
    (predicate (.str "min_size?") (.int 1) (.dict [])) (.dict [])

theorem visit_beside_filledList :
    visit {} Context.root filledListNode =
      visit {} (Context.root.onRightOf (.primitive .string)) filledListNode :=
  visit_beside {} (by unfold Shaped; decide) rfl rfl

/-- The rule alone stands for nothing, and looks at the type on its left. -/
example :
    visit {} (Context.root.onRightOf (.primitive .list))
        (predicate (.str "min_size?") (.int 1) (.dict [])) =
      .ok (Fragment.ofKeywords [("minItems", .int 1)]) ∧
    visit {} Context.root (predicate (.str "min_size?") (.int 1) (.dict [])) =
      .ok (Fragment.ofKeywords [("minLength", .int 1)]) := ⟨rfl, rfl⟩

end Node

end Draftsman
