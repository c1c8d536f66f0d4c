/-
# Draftsman.Proofs.Leniency -- what loose mode does to unknown predicates

In loose mode a predicate without a place in documents is dropped; in strict mode it is a
fault.  `Node.silence` puts in the place of each such predicate one that says nothing, a
`type?` of nothing.  The two ways of passing over them agree: `compile_loose` says that
loose mode on a description is strict mode on the silenced one, that it never fails for an
unknown predicate, and that it gives every document that strict mode gives.

Both halves compare two visits step by step.  `Likened` lists what a relation between
steps has to satisfy for that, and `Likened.visit` walks the tree once for all of them.
-/
import Draftsman.Proofs.Visiting

namespace Draftsman

set_option autoImplicit false

namespace Node

/-! ## Silenced descriptions -/

def hasConstraint (name : Value) : Bool := (name.text?.bind constraint?).isSome

def predicateNamed : Node → Bool
  | predicate name _ _ => name.text?.isSome
  | _ => true

mutual

/-- A description whose unknown predicates say nothing. -/
def silence : Node → Node
  | nominal primitive notes => nominal primitive notes
  | constructor type fn notes => constructor (silence type) fn notes
  | constrained type rule notes => constrained (silence type) (silence rule) notes
  | predicate name operand notes =>
      if hasConstraint name then predicate name operand notes
      else predicate (.str "type?") .null notes
  | sum types notes => sum (silenceSlot types) notes
  | intersection left right notes => intersection (silence left) (silence right) notes
  | mapping fields notes => mapping (silence fields) notes
  | aggregate name fields notes => aggregate name (silence fields) notes
  | array member notes => array (silence member) notes
  | schema keys notes => schema (silenceSlot keys) notes
  | key name type required notes => key name (silence type) required notes
  | enum type values notes => enum (silence type) (silenceSlot values) notes
  | lazy notes => lazy notes
  | bare notes => bare notes
  | plain v => plain v

def silenceSlot : Children → Children
  | .nodes items => .nodes (silenceEach items)
  | .value v => .value v

def silenceEach : List Node → List Node
  | [] => []
  | node :: rest => silence node :: silenceEach rest

end

theorem silence_predicate (name operand notes : Value) :
    ∃ other less, silence (predicate name operand notes) = predicate other less notes := by
  rw [silence]
  split
  · exact ⟨name, operand, rfl⟩
  · exact ⟨_, _, rfl⟩

theorem notes_silence (node : Node) : (silence node).notes = node.notes := by
  cases node with
  | predicate name operand notes =>
      obtain ⟨other, less, same⟩ := silence_predicate name operand notes
      rw [same]
      rfl
  | _ => rfl

/-- An unknown predicate is not the one that gives a type. -/
theorem not_equal_type {name : Value} {text : String} (named : name.text? = some text)
    (unknown : hasConstraint name = false) : name.equal (.str "type?") = false := by
  rw [Value.equal_of_text? named]
  simp only [Value.text?, beq_eq_false_iff_ne, ne_eq, Option.some.injEq]
  rintro rfl
  simp [hasConstraint, named, constraint?, constraints] at unknown

theorem concreteType_silence : ∀ {node : Node}, (∀ part ∈ node.parts, part.predicateNamed = true) →
    concreteType (silence node) = concreteType node
  | .predicate name operand notes, named => by
      rw [silence]
      split
      · rfl
      · rename_i unknown
        obtain ⟨text, found⟩ := Option.isSome_iff_exists.mp (named _ List.mem_cons_self)
        simp [concreteType, Value.equal_str_self, Value.toPrimitive?,
          not_equal_type found (by simpa using unknown)]
  | .constrained type rule notes, named => by
      rw [silence, concreteType, concreteType]
      exact concreteType_silence fun part held =>
        named part (List.mem_cons_of_mem _ (List.mem_append_left _ held))
  | .constructor type fn notes, named => by
      rw [silence, concreteType, concreteType]
      exact concreteType_silence fun part held => named part (List.mem_cons_of_mem _ held)
  | .enum type values notes, named => by
      rw [silence, concreteType, concreteType]
      exact concreteType_silence fun part held => named part (List.mem_cons_of_mem _ held)
  | .intersection left right notes, named => by
      rw [silence, concreteType, concreteType]
      exact concreteType_silence fun part held =>
        named part (List.mem_cons_of_mem _ (List.mem_append_left _ held))
  | .nominal _ _, _ | .sum _ _, _ | .mapping _ _, _ | .aggregate _ _ _, _ | .array _ _, _
  | .schema _ _, _ | .key _ _ _ _, _ | .lazy _, _ | .bare _, _ | .plain _, _ => rfl

mutual

theorem enumerable_silence : ∀ types : Children, enumerable (silenceSlot types) = enumerable types
  | .nodes items => allEnumerable_silence items
  | .value _ => rfl

theorem allEnumerable_silence : ∀ nodes : List Node,
    allEnumerable (silenceEach nodes) = allEnumerable nodes
  | [] => rfl
  | .sum types notes :: rest => by
      simp [silenceEach, silence, allEnumerable, enumerable_silence types,
        allEnumerable_silence rest]
  | .predicate name operand notes :: rest => by
      rw [silenceEach, silence]
      split <;> exact allEnumerable_silence rest
  | .nominal _ _ :: rest | .constructor _ _ _ :: rest | .constrained _ _ _ :: rest
  | .intersection _ _ _ :: rest | .mapping _ _ :: rest | .aggregate _ _ _ :: rest
  | .array _ _ :: rest | .schema _ _ :: rest | .key _ _ _ _ :: rest | .enum _ _ _ :: rest
  | .lazy _ :: rest | .bare _ :: rest | .plain _ :: rest => allEnumerable_silence rest

end

/-! ## Steps that no unknown predicate stops -/

/-- A step that does not fail for an unknown predicate. -/
def Spared {α : Type} (step : Except CompileFault α) : Prop :=
  ∀ name, step ≠ .error (.unknownPredicate name)

namespace Spared

variable {α β : Type}

theorem ok (value : α) : Spared (.ok value) := fun _ impossible => by cases impossible

theorem bind {step : Except CompileFault α} {next : α → Except CompileFault β}
    (first : Spared step) (later : ∀ value, Spared (next value)) : Spared (step >>= next) := by
  cases step with
  | ok value => exact later value
  | error fault =>
      intro name same
      obtain rfl := Except.error.inj same
      exact first name rfl

/-- The faults of values that do not fit their use name no predicate. -/
theorem of_misfits {step : Except CompileFault α} (misfits : Misfits step) : Spared step := by
  intro name failed
  cases misfits _ failed

theorem allow (o : Options) (depth : Nat) : Spared (o.allow depth) := by
  intro name
  simp only [Options.allow]
  repeat' split
  all_goals exact fun impossible => by cases impossible

theorem visitPlain (o : Options) (ctx : Context) (v : Value) : Spared (Node.visitPlain o ctx v) :=
  bind (allow _ _) fun _ _ impossible => by cases impossible

theorem visitPlains (o : Options) (ctx : Context) (values : List Value) :
    Spared (Node.visitPlains o ctx values) := by
  cases values with
  | nil => exact ok ()
  | cons v rest =>
      intro name same
      have first := visitPlain o ctx v name
      cases plain : Node.visitPlain o ctx v with
      | ok fragment => simp [Node.visitPlains, plain, Except.map] at same
      | error fault =>
          simp only [Node.visitPlains, plain, Except.map, Except.error.injEq] at same
          exact first (same ▸ plain)

end Spared

/-! ## Visits side by side -/

/-- A relation between the steps of two visits, the second one of a silenced description,
that is kept from step to step. -/
structure Likened (o strict : Options)
    (like : {α : Type} → Except CompileFault α → Except CompileFault α → Prop) : Prop where
  depth : o.maxDepth = strict.maxDepth
  same : ∀ {α : Type} {step : Except CompileFault α}, Spared step → like step step
  bind : ∀ {α β : Type} {one other : Except CompileFault α}
    {next next' : α → Except CompileFault β}, like one other →
      (∀ value, like (next value) (next' value)) → like (one >>= next) (other >>= next')
  known : ∀ {leftType name operand}, hasConstraint name = true →
    like (predicateFragment o leftType name operand) (predicateFragment strict leftType name operand)
  unknown : ∀ {leftType name text operand}, name.text? = some text → hasConstraint name = false →
    like (predicateFragment o leftType name operand) (.ok [])

/-- A `type?` of nothing says nothing. -/
theorem predicateFragment_silent (o : Options) (leftType : Value) :
    predicateFragment o leftType (.str "type?") .null = .ok [] := by
  have looked : lookupName leftType (.str "type?") = some "type?" := by
    simp only [lookupName]
    split <;> rfl
  simp only [predicateFragment, looked]
  rfl

theorem predicateNamed_of_parts {node : Node}
    (named : ∀ part ∈ node.parts, part.predicateNamed = true) : node.predicateNamed = true := by
  cases node with
  | predicate name operand notes => exact named _ List.mem_cons_self
  | _ => rfl

/-- A field set takes a silenced field as it takes the field. -/
theorem add_silence (fields : Fields) {node : Node} (named : node.predicateNamed = true)
    (fragment : Members) : fields.add (silence node) fragment = fields.add node fragment := by
  cases node with
  | predicate name operand notes =>
      rw [silence]
      split
      · rfl
      · obtain ⟨text, found⟩ := Option.isSome_iff_exists.mp named
        simp [Fields.add, name?, required?, present, Value.isKey_of_text? found, Value.isKey, bind,
          Except.bind]
  | _ => rfl

namespace Likened

variable {o strict : Options}
  {like : {α : Type} → Except CompileFault α → Except CompileFault α → Prop}

theorem misfits (likened : Likened o strict like) {α : Type} {step : Except CompileFault α}
    (misfits : Misfits step) : like step step := likened.same (.of_misfits misfits)

theorem allow (likened : Likened o strict like) (depth : Nat) :
    like (o.allow depth) (strict.allow depth) := by
  have same : o.allow depth = strict.allow depth := by simp only [Options.allow, likened.depth]
  exact same ▸ likened.same (Spared.allow o depth)

theorem visitPlain (likened : Likened o strict like) (ctx : Context) (v : Value) :
    like (Node.visitPlain o ctx v) (Node.visitPlain strict ctx v) :=
  likened.bind (likened.allow _) fun _ => likened.same fun _ impossible => by cases impossible

theorem visitPlains (likened : Likened o strict like) (ctx : Context) (values : List Value) :
    like (Node.visitPlains o ctx values) (Node.visitPlains strict ctx values) := by
  have same : Node.visitPlains o ctx values = Node.visitPlains strict ctx values := by
    cases values with
    | nil => rfl
    | cons v rest => simp only [Node.visitPlains, Node.visitPlain, Options.allow, likened.depth]
  exact same ▸ likened.same (Spared.visitPlains o ctx values)

theorem visitFieldSet (likened : Likened o strict like) {ctx : Context} {fields : Node}
    (visited : like (Node.visit o ctx.inner fields) (Node.visit strict ctx.inner (silence fields))) :
    like (Node.visitFieldSet o ctx fields) (Node.visitFieldSet strict ctx (silence fields)) := by
  cases fields with
  | plain v =>
      cases v with
      | null => exact likened.same (Spared.ok _)
      | _ => exact visited
  | predicate name operand notes =>
      obtain ⟨other, less, same⟩ := silence_predicate name operand notes
      rw [same] at visited ⊢
      exact visited
  | _ => exact visited

/-- A reference in force is the same in both visits. -/
theorem unlessReferred (likened : Likened o strict like) {ref : Value}
    {one other : Except CompileFault Members} (inside : like one other) (notes : Value)
    (byReference : Members) :
    like (if ref.isNull then one else Node.finish notes byReference)
      (if ref.isNull then other else Node.finish notes byReference) := by
  split
  · exact inside
  · exact likened.misfits (.finish _ _)

theorem visitAlternative (likened : Likened o strict like) {ctx : Context} {found : List Members}
    {node : Node} (visited : like (Node.visit o ctx node) (Node.visit strict ctx (silence node)))
    (flat : ∀ types notes, node = sum types notes →
      like (Node.visitAlternatives o ctx found types)
        (Node.visitAlternatives strict ctx found (silenceSlot types))) :
    like (Node.visitAlternative o ctx found node)
      (Node.visitAlternative strict ctx found (silence node)) := by
  have gathered := likened.bind visited fun fragment => likened.misfits (.gather found fragment)
  cases node with
  | sum types notes =>
      simp only [Node.visitAlternative, silence]
      split
      · exact gathered
      · exact flat types notes rfl
  | predicate name operand notes =>
      obtain ⟨other, less, same⟩ := silence_predicate name operand notes
      rw [same] at gathered ⊢
      exact gathered
  | _ => exact gathered

mutual

/-- Visits of a description and of the silenced one are alike. -/
theorem visit (likened : Likened o strict like) : ∀ (node : Node) (ctx : Context),
    (∀ part ∈ node.parts, part.predicateNamed = true) →
      like (Node.visit o ctx node) (Node.visit strict ctx (silence node))
  | .nominal primitive notes, ctx, named => by
      simp only [silence, Node.visit]
      exact likened.bind (likened.allow _) fun _ => likened.misfits (.finish _ _)
  | .constructor type fn notes, ctx, named => by
      simp only [silence, Node.visit]
      obtain ⟨-, below⟩ := List.forall_mem_cons.mp named
      exact likened.bind (likened.allow _) fun _ =>
        likened.bind (visit likened type _ below) fun _ => likened.misfits (.finish _ _)
  | .constrained type rule notes, ctx, named => by
      obtain ⟨-, below⟩ := List.forall_mem_cons.mp named
      obtain ⟨typeNamed, ruleNamed⟩ := List.forall_mem_append.mp below
      simp only [silence, Node.visit, concreteType_silence typeNamed]
      refine likened.bind (likened.allow _) fun _ => ?_
      refine likened.bind (visit likened type _ typeNamed) fun _ => ?_
      refine likened.bind (visit likened rule _ ruleNamed) fun _ => ?_
      exact likened.misfits (.bind (.decided _) fun _ => .finish _ _)
  | .predicate name operand notes, ctx, named => by
      rw [silence]
      split
      · rename_i listed
        simp only [Node.visit]
        exact likened.bind (likened.allow _) fun _ =>
          likened.bind (likened.known listed) fun _ => likened.misfits (.finish _ _)
      · rename_i unlisted
        obtain ⟨text, found⟩ := Option.isSome_iff_exists.mp (named _ List.mem_cons_self)
        simp only [Node.visit, predicateFragment_silent]
        exact likened.bind (likened.allow _) fun _ =>
          likened.bind (likened.unknown found (by simpa using unlisted)) fun _ =>
            likened.misfits (.finish _ _)
  | .sum types notes, ctx, named => by
      obtain ⟨-, below⟩ := List.forall_mem_cons.mp named
      simp only [silence, Node.visit, enumerable_silence]
      refine likened.bind (likened.allow _) fun _ => ?_
      split
      · exact likened.same fun _ impossible => by cases impossible
      · exact likened.bind (visitAlternatives likened types _ [] below) fun _ =>
          likened.misfits (.finish _ _)
  | .intersection left right notes, ctx, named => by
      obtain ⟨-, below⟩ := List.forall_mem_cons.mp named
      obtain ⟨leftNamed, rightNamed⟩ := List.forall_mem_append.mp below
      simp only [silence, Node.visit, concreteType_silence leftNamed]
      refine likened.bind (likened.allow _) fun _ => ?_
      refine likened.bind (visit likened left _ leftNamed) fun _ => ?_
      refine likened.bind (visit likened right _ rightNamed) fun _ => ?_
      exact likened.misfits (.bind (.decided _) fun _ => .finish _ _)
  | .mapping fields notes, ctx, named => by
      obtain ⟨-, below⟩ := List.forall_mem_cons.mp named
      simp only [silence, visit_mapping]
      refine likened.bind (likened.allow _) fun _ => ?_
      refine likened.bind (likened.misfits (.reference _ _)) fun ref => ?_
      refine likened.unlessReferred ?_ notes _
      exact likened.bind (likened.visitFieldSet (visit likened fields _ below)) fun _ =>
        likened.misfits (.finish _ _)
  | .aggregate name fields notes, ctx, named => by
      obtain ⟨-, below⟩ := List.forall_mem_cons.mp named
      simp only [silence, visit_aggregate]
      refine likened.bind (likened.allow _) fun _ => ?_
      refine likened.bind (likened.misfits (.reference _ _)) fun ref => ?_
      refine likened.unlessReferred ?_ notes _
      exact likened.bind (likened.visitFieldSet (visit likened fields _ below)) fun _ =>
        likened.misfits (.finish _ _)
  | .array member notes, ctx, named => by
      obtain ⟨-, below⟩ := List.forall_mem_cons.mp named
      simp only [silence, Node.visit, notes_silence]
      refine likened.bind (likened.allow _) fun _ => ?_
      refine likened.bind (visit likened member _ below) fun _ => ?_
      exact likened.misfits (.bind (.arrayFragment _ _) fun _ => .finish _ _)
  | .schema keys notes, ctx, named => by
      obtain ⟨-, below⟩ := List.forall_mem_cons.mp named
      simp only [silence, Node.visit]
      refine likened.bind (likened.allow _) fun _ => ?_
      refine likened.bind (likened.misfits (.reference _ _)) fun ref => ?_
      refine likened.unlessReferred ?_ notes _
      exact likened.bind (visitKeys likened keys _ below) fun _ => likened.misfits (.finish _ _)
  | .key name type required notes, ctx, named => by
      obtain ⟨-, below⟩ := List.forall_mem_cons.mp named
      simp only [silence, Node.visit]
      exact likened.bind (likened.allow _) fun _ =>
        likened.bind (visit likened type _ below) fun _ => likened.misfits (.finish _ _)
  | .enum type values notes, ctx, named => by
      obtain ⟨-, below⟩ := List.forall_mem_cons.mp named
      simp only [silence, Node.visit]
      exact likened.bind (likened.allow _) fun _ =>
        likened.bind (visit likened type _ below) fun _ => likened.misfits (.finish _ _)
  | .lazy notes, ctx, named => by
      simp only [silence, Node.visit]
      exact likened.bind (likened.allow _) fun _ =>
        likened.same fun _ impossible => by cases impossible
  | .bare notes, ctx, named => by
      simp only [silence, Node.visit]
      exact likened.bind (likened.allow _) fun _ =>
        likened.same fun _ impossible => by cases impossible
  | .plain v, ctx, named => by
      simp only [silence, Node.visit]
      exact likened.visitPlain ctx v

/-- The same for the alternatives in a slot. -/
theorem visitAlternatives (likened : Likened o strict like) :
    ∀ (types : Children) (ctx : Context) (found : List Members),
      (∀ part ∈ partsOfSlot types, part.predicateNamed = true) →
      like (Node.visitAlternatives o ctx found types)
        (Node.visitAlternatives strict ctx found (silenceSlot types))
  | .nodes items, ctx, found, named => by
      simp only [silenceSlot, Node.visitAlternatives]
      exact visitEach likened items ctx found named
  | .value v, ctx, found, named => by
      simp only [silenceSlot, Node.visitAlternatives]
      exact likened.bind (likened.misfits (.typed _)) fun _ =>
        likened.bind (likened.visitPlains _ _) fun _ => likened.same (Spared.ok _)

/-- The same for some alternatives. -/
theorem visitEach (likened : Likened o strict like) :
    ∀ (nodes : List Node) (ctx : Context) (found : List Members),
      (∀ part ∈ partsOfEach nodes, part.predicateNamed = true) →
      like (Node.visitEach o ctx found nodes) (Node.visitEach strict ctx found (silenceEach nodes))
  | [], ctx, found, named => likened.same (Spared.ok _)
  | node :: rest, ctx, found, named => by
      obtain ⟨own, others⟩ := List.forall_mem_append.mp named
      simp only [silenceEach, visitEach_cons]
      refine likened.bind (likened.visitAlternative (visit likened node ctx own) ?_) fun next =>
        visitEach likened rest ctx next others
      cases node with
      | sum types notes =>
          rintro _ _ ⟨⟩
          exact visitAlternatives likened types ctx found (List.forall_mem_cons.mp own).2
      | _ => rintro _ _ ⟨⟩

/-- The same for the fields in a slot. -/
theorem visitKeys (likened : Likened o strict like) : ∀ (keys : Children) (ctx : Context),
    (∀ part ∈ partsOfSlot keys, part.predicateNamed = true) →
      like (Node.visitKeys o ctx keys) (Node.visitKeys strict ctx (silenceSlot keys))
  | .nodes items, ctx, named => by
      simp only [silenceSlot, Node.visitKeys]
      exact visitFields likened items ctx {} named
  | .value v, ctx, named => by
      simp only [silenceSlot, Node.visitKeys]
      exact likened.bind (likened.misfits (.typed _)) fun _ =>
        likened.bind (likened.visitPlains _ _) fun _ => likened.same (Spared.ok _)

/-- The same for some fields. -/
theorem visitFields (likened : Likened o strict like) :
    ∀ (nodes : List Node) (ctx : Context) (found : Fields),
      (∀ part ∈ partsOfEach nodes, part.predicateNamed = true) →
      like (Node.visitFields o ctx found nodes)
        (Node.visitFields strict ctx found (silenceEach nodes))
  | [], ctx, found, named => likened.same (Spared.ok _)
  | node :: rest, ctx, found, named => by
      obtain ⟨own, others⟩ := List.forall_mem_append.mp named
      simp only [silenceEach, Node.visitFields]
      refine likened.bind (visit likened node ctx own) fun fragment => ?_
      rw [add_silence found (predicateNamed_of_parts own)]
      exact likened.bind (likened.misfits (.add _ _ _)) fun next =>
        visitFields likened rest ctx next others

end

end Likened

/-! ## Loose and strict mode -/

/-- A step in loose mode beside the same step in strict mode. -/
structure Milder {α : Type} (strict loose : Except CompileFault α) : Prop where
  spared : Spared loose
  eq_or : strict = loose ∨ ∃ name, strict = .error (.unknownPredicate name)

theorem Milder.refl {α : Type} {step : Except CompileFault α} (spared : Spared step) :
    Milder step step := ⟨spared, .inl rfl⟩

theorem Milder.bind {α β : Type} {strict loose : Except CompileFault α}
    {next next' : α → Except CompileFault β} (first : Milder strict loose)
    (later : ∀ value, Milder (next value) (next' value)) :
    Milder (strict >>= next) (loose >>= next') := by
  refine ⟨first.spared.bind fun value => (later value).spared, ?_⟩
  rcases first.eq_or with rfl | ⟨name, rfl⟩
  · cases strict with
    | ok value => exact (later value).eq_or
    | error fault => exact .inl rfl
  · exact .inr ⟨name, rfl⟩

/-- Whether a predicate has a place in documents does not depend on what is on its left. -/
theorem lookupName_isSome (leftType name : Value) :
    ((lookupName leftType name).bind constraint?).isSome = hasConstraint name := by
  have same := congrArg Option.isSome (lookupName_reading leftType name)
  rwa [Option.isSome_map, Option.isSome_map] at same

/-- What a predicate of the table gives does not depend on the mode. -/
theorem predicateFragment_known (o o' : Options) {leftType name operand : Value}
    (listed : hasConstraint name = true) :
    predicateFragment o leftType name operand = predicateFragment o' leftType name operand ∧
      Spared (predicateFragment o leftType name operand) := by
  obtain ⟨c, found⟩ := Option.isSome_iff_exists.mp ((lookupName_isSome leftType name).trans listed)
  simp only [predicateFragment, found]
  refine ⟨trivial, fun other same => ?_⟩
  split at same
  · cases same
  · split at same <;> cases same

/-- What a predicate outside the table gives is up to the mode. -/
theorem predicateFragment_unknown (o : Options) {leftType name operand : Value} {text : String}
    (named : name.text? = some text) (unlisted : hasConstraint name = false) :
    predicateFragment o leftType name operand =
      if o.loose.truthy then .ok [] else .error (.unknownPredicate name) := by
  have absent : (lookupName leftType name).bind constraint? = none := by
    rw [← Option.isNone_iff_eq_none, ← Option.not_isSome, lookupName_isSome, unlisted]
    rfl
  simp [predicateFragment, absent, Value.isKey_of_text? named]

/-- Loose mode on a description is strict mode on the silenced one. -/
theorem likened_loose (o : Options) {yes : Value} (loose : yes.truthy = true) (no : Value) :
    Likened { o with loose := yes } { o with loose := no } fun one other => one = other where
  depth := rfl
  same _ := rfl
  bind first later := by
    subst first
    exact congrArg _ (funext later)
  known listed := (predicateFragment_known _ _ listed).1
  unknown named unlisted := by simp [predicateFragment_unknown _ named unlisted, loose]

/-- Strict mode gives for the silenced description what it gives for the description,
unless that one fails for an unknown predicate. -/
theorem likened_strict {o : Options} (strict : o.loose.truthy = false) :
    Likened o o Milder where
  depth := rfl
  same := Milder.refl
  bind := Milder.bind
  known listed := Milder.refl (predicateFragment_known o o listed).2
  unknown {leftType name text operand} named unlisted := by
    rw [predicateFragment_unknown _ named unlisted, strict]
    exact ⟨Spared.ok _, .inr ⟨name, rfl⟩⟩

/-- Loose mode drops exactly the unknown predicates: its outcome is that of strict mode on
the silenced description, never fails for an unknown predicate, and is the document of
strict mode wherever that has one. -/
theorem compile_loose (o : Options) {yes no : Value} {node : Node}
    (loose : yes.truthy = true) (strict : no.truthy = false)
    (named : ∀ part ∈ node.parts, part.predicateNamed = true) :
    node.compile { o with loose := yes } = (silence node).compile { o with loose := no } ∧
      (∀ name, node.compile { o with loose := yes } ≠ .error (.unknownPredicate name)) ∧
      ∀ document, node.compile { o with loose := no } = .ok document →
        node.compile { o with loose := yes } = .ok document := by
  have same : node.compile { o with loose := yes } =
      (silence node).compile { o with loose := no } := by
    have visited := (likened_loose o loose no).visit node Context.root named
    exact (likened_loose o loose no).bind visited fun _ => rfl
  have milder : Milder (node.compile { o with loose := no })
      ((silence node).compile { o with loose := no }) :=
    ((likened_strict strict).visit node Context.root named).bind fun _ => Milder.refl (Spared.ok _)
  rw [same]
  refine ⟨rfl, milder.spared, fun document compiled => ?_⟩
  rcases milder.eq_or with equal | ⟨name, failed⟩
  · exact equal ▸ compiled
  · rw [failed] at compiled
    cases compiled

def paletteNode : Node :=
  constrained (nominal (.primitive .string) (.dict []))
    (intersection (predicate (.str "palindrome?") .null (.dict []))
      (predicate (.str "max_size?") (.int 7) (.dict [])) (.dict [])) (.dict [])

theorem compile_loose_palette :
    paletteNode.compile { loose := .bool true } =
        (silence paletteNode).compile { loose := .bool false } ∧
      (∀ name, paletteNode.compile { loose := .bool true } ≠ .error (.unknownPredicate name)) ∧
      ∀ document, paletteNode.compile { loose := .bool false } = .ok document →
        paletteNode.compile { loose := .bool true } = .ok document :=
  compile_loose {} rfl rfl (by decide)

end Node

end Draftsman
