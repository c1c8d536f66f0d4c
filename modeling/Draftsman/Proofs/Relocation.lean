/-
# Draftsman.Proofs.Relocation -- a node in two places

Of what is around it a node sees whether it stands at top level, whether it is the element of a
list, the type on its left and the reference in force (`Context.LooksLike`); its depth does nothing
but stop the visit.  Two visits of a node are compared here, each under options of its own, in
contexts that look alike.  What holds of them when they enter the node, and goes through a chain of
steps that are alike otherwise (`Relocating`, one field for each of these), holds of the whole
visits (`Relocating.visit`): the walk over the tree is done once.

Under one limit, whatever it is, both visits have the same outcome unless the limit stops one of
them (`visit_relocated`).
-/
import Draftsman.Proofs.Depth
import Draftsman.Proofs.Visiting

namespace Draftsman

set_option autoImplicit false

namespace Context

def atDepth (ctx : Context) (depth : Nat) : Context := { ctx with depth := depth }

/-- A context that looks like another to the nodes in it, whatever the depths. -/
structure LooksLike (ctx other : Context) : Prop where
  topLevel : other.topLevel = ctx.topLevel
  inArray : other.inArray = ctx.inArray
  leftType : other.leftType = ctx.leftType
  referred : ∀ notes, Node.reference notes other.keyNotes = Node.reference notes ctx.keyNotes

namespace LooksLike

variable {ctx other : Context}

theorem refl (ctx : Context) : ctx.LooksLike ctx := ⟨rfl, rfl, rfl, fun _ => rfl⟩

theorem atDepth (ctx : Context) (depth : Nat) : ctx.LooksLike (ctx.atDepth depth) :=
  ⟨rfl, rfl, rfl, fun _ => rfl⟩

theorem inner (looks : ctx.LooksLike other) : ctx.inner.LooksLike other.inner :=
  ⟨looks.topLevel, looks.inArray, looks.leftType, looks.referred⟩

theorem ruleFor (looks : ctx.LooksLike other) (primitive : Value) :
    (ctx.ruleFor primitive).LooksLike (other.ruleFor primitive) :=
  ⟨looks.topLevel, looks.inArray, rfl, looks.referred⟩

theorem alternative (looks : ctx.LooksLike other) :
    ctx.alternative.LooksLike other.alternative where
  topLevel := by simp [Context.topLevel, Context.alternative, descend, change]
  inArray := looks.inArray
  leftType := looks.leftType
  referred := looks.referred

theorem element (looks : ctx.LooksLike other) : ctx.element.LooksLike other.element where
  topLevel := by simp [Context.topLevel, Context.element, descend, change]
  inArray := rfl
  leftType := rfl
  referred := looks.referred

/-- The type of a field sees nothing of what is around the field. -/
theorem field (ctx other : Context) (name notes : Value) :
    (ctx.field name notes).LooksLike (other.field name notes) :=
  ⟨rfl, rfl, rfl, fun _ => rfl⟩

end LooksLike

end Context

/-- A step that no limit stops. -/
def Unbounded {α : Type} (step : Except CompileFault α) : Prop :=
  ∀ depth limit, step ≠ .error (.tooDeep depth limit)

namespace Unbounded

variable {α β : Type} {step : Except CompileFault α} {next : α → Except CompileFault β}

theorem of_misfits (misfits : Misfits step) : Unbounded step := by
  intro depth limit failed
  cases misfits _ failed

theorem ok (value : α) : Unbounded (.ok value) := .of_misfits (.ok value)

/-- What stops the first step of a chain stops the chain. -/
theorem first (unbounded : Unbounded (step >>= next)) : Unbounded step := by
  rintro depth limit rfl
  exact unbounded depth limit rfl

theorem later {value : α} (unbounded : Unbounded (.ok value >>= next)) :
    Unbounded (next value) := unbounded

end Unbounded

namespace Node

/-- No limit stops a predicate. -/
theorem predicateFragment_unbounded (o : Options) (leftType name operand : Value) :
    Unbounded (predicateFragment o leftType name operand) := by
  intro depth limit failed
  simp only [predicateFragment] at failed
  split at failed
  · cases failed
  · split at failed
    · split at failed <;> cases failed
    · split at failed <;> cases failed

/-! ## The walk -/

/-- A relation between steps, under two options and at two depths, that the steps of visits keep:
what no limit stops is related to itself, chains of related steps are related, and a node is
entered with the next depths. -/
structure Relocating (o o' : Options) (near : Nat → Nat → Prop)
    (alike : ∀ {α : Type}, Except CompileFault α → Except CompileFault α → Prop) : Prop where
  loose : o'.loose = o.loose
  same : ∀ {α : Type} {step : Except CompileFault α}, Unbounded step → alike step step
  bind : ∀ {α β : Type} {step step' : Except CompileFault α}
    {next next' : α → Except CompileFault β}, alike step step' →
      (∀ value, alike (next value) (next' value)) → alike (step >>= next) (step' >>= next')
  enter : ∀ {α : Type} {depth depth' : Nat} {inside inside' : Except CompileFault α},
    near depth depth' → (near (depth + 1) (depth' + 1) → alike inside inside') →
      alike (o.allow depth >>= fun _ => inside) (o'.allow depth' >>= fun _ => inside')

namespace Relocating

variable {o o' : Options} {near : Nat → Nat → Prop}
  {alike : ∀ {α : Type}, Except CompileFault α → Except CompileFault α → Prop}

theorem misfits (relocating : Relocating o o' near alike) {α : Type} {step : Except CompileFault α}
    (misfits : Misfits step) : alike step step :=
  relocating.same (.of_misfits misfits)

theorem predicate (relocating : Relocating o o' near alike) (leftType name operand : Value) :
    alike (predicateFragment o leftType name operand)
      (predicateFragment o' leftType name operand) := by
  have same : predicateFragment o' leftType name operand =
      predicateFragment o leftType name operand := by
    simp only [predicateFragment, relocating.loose]
  rw [same]
  exact relocating.same (predicateFragment_unbounded o leftType name operand)

variable {ctx ctx' : Context}

theorem plain (relocating : Relocating o o' near alike) (nearby : near ctx.depth ctx'.depth)
    (v : Value) : alike (visitPlain o ctx v) (visitPlain o' ctx' v) :=
  relocating.enter nearby fun _ => relocating.same fun _ _ impossible => by cases impossible

theorem plains (relocating : Relocating o o' near alike) (nearby : near ctx.depth ctx'.depth)
    (values : List Value) : alike (visitPlains o ctx values) (visitPlains o' ctx' values) := by
  cases values with
  | nil => exact relocating.misfits (.ok ())
  | cons v rest =>
      exact relocating.bind (relocating.plain nearby v) fun _ => relocating.misfits (.ok ())

theorem fieldSet (relocating : Relocating o o' near alike) {fields : Node}
    (visited : alike (Node.visit o ctx.inner fields) (Node.visit o' ctx'.inner fields)) :
    alike (visitFieldSet o ctx fields) (visitFieldSet o' ctx' fields) := by
  cases fields with
  | plain v =>
      cases v with
      | null => exact relocating.misfits (.ok _)
      | _ => exact visited
  | _ => exact visited

/-- The reference in force at an object type is the same in both places. -/
theorem unlessReferred (relocating : Relocating o o' near alike)
    {inside inside' : Except CompileFault Members} (below : alike inside inside')
    (notes keyNotes : Value) (byReference : Value → Members) :
    alike
      (reference notes keyNotes >>= fun ref =>
        if ref.isNull then inside else finish notes (byReference ref))
      (reference notes keyNotes >>= fun ref =>
        if ref.isNull then inside' else finish notes (byReference ref)) := by
  refine relocating.bind (relocating.misfits (.reference notes keyNotes)) fun ref => ?_
  split
  · exact below
  · exact relocating.misfits (.finish _ _)

/-- A visit is followed by the same notes in both places. -/
theorem noted (relocating : Relocating o o' near alike) {step step' : Except CompileFault Members}
    (below : alike step step') (notes : Value) :
    alike (step >>= finish notes) (step' >>= finish notes) :=
  relocating.bind below fun _ => relocating.misfits (.finish _ _)

mutual

/-- The visits of a node in two places are related. -/
theorem visit (relocating : Relocating o o' near alike) :
    ∀ (node : Node) (ctx ctx' : Context), near ctx.depth ctx'.depth → ctx.LooksLike ctx' →
      alike (Node.visit o ctx node) (Node.visit o' ctx' node)
  | .nominal primitive notes, ctx, ctx', nearby, looks => by
      rw [Node.visit, Node.visit]
      exact relocating.enter nearby fun _ => relocating.misfits (.finish _ _)
  | .constructor type fn notes, ctx, ctx', nearby, looks => by
      rw [Node.visit, Node.visit]
      exact relocating.enter nearby fun deeper =>
        relocating.noted (visit relocating type ctx.inner ctx'.inner deeper looks.inner) notes
  | .constrained type rule notes, ctx, ctx', nearby, looks => by
      rw [Node.visit, Node.visit]
      refine relocating.enter nearby fun deeper => ?_
      refine relocating.bind (visit relocating type _ _ deeper looks.inner) fun _ => ?_
      refine relocating.bind (visit relocating rule _ _ deeper (looks.ruleFor _)) fun _ => ?_
      exact relocating.misfits (.bind (.decided _) fun _ => .finish _ _)
  | .predicate name operand notes, ctx, ctx', nearby, looks => by
      rw [Node.visit, Node.visit, looks.leftType]
      exact relocating.enter nearby fun _ =>
        relocating.noted (relocating.predicate ctx.leftType name operand) notes
  | .sum types notes, ctx, ctx', nearby, looks => by
      rw [Node.visit, Node.visit, looks.topLevel]
      refine relocating.enter nearby fun deeper => ?_
      split
      · exact relocating.misfits (.error rfl)
      · exact relocating.bind
          (visitAlternatives relocating types _ _ [] deeper looks.alternative)
          fun _ => relocating.misfits (.finish _ _)
  | .intersection left right notes, ctx, ctx', nearby, looks => by
      rw [Node.visit, Node.visit, looks.leftType]
      refine relocating.enter nearby fun deeper => ?_
      refine relocating.bind (visit relocating left _ _ deeper looks.inner) fun _ => ?_
      refine relocating.bind (visit relocating right _ _ deeper (looks.ruleFor _)) fun _ => ?_
      exact relocating.misfits (.bind (.decided _) fun _ => .finish _ _)
  | .mapping fields notes, ctx, ctx', nearby, looks => by
      rw [visit_mapping, visit_mapping, looks.inArray, looks.referred]
      refine relocating.enter nearby fun deeper => ?_
      have visited := relocating.fieldSet (visit relocating fields _ _ deeper looks.inner)
      exact relocating.unlessReferred (relocating.noted visited notes) notes ctx.keyNotes
        (objectReference ctx.inArray)
  | .aggregate name fields notes, ctx, ctx', nearby, looks => by
      rw [visit_aggregate, visit_aggregate, looks.referred]
      refine relocating.enter nearby fun deeper => ?_
      have visited := relocating.fieldSet (visit relocating fields _ _ deeper looks.inner)
      exact relocating.unlessReferred (relocating.noted visited notes) notes ctx.keyNotes
        (objectReference true)
  | .array member notes, ctx, ctx', nearby, looks => by
      rw [Node.visit, Node.visit]
      refine relocating.enter nearby fun deeper => ?_
      refine relocating.bind (visit relocating member _ _ deeper looks.element) fun _ => ?_
      exact relocating.misfits (.bind (.arrayFragment _ _) fun _ => .finish _ _)
  | .schema keys notes, ctx, ctx', nearby, looks => by
      rw [Node.visit, Node.visit, looks.inArray, looks.referred]
      refine relocating.enter nearby fun deeper => ?_
      have inside := relocating.bind (visitKeys relocating keys _ _ deeper looks.inner) fun fields =>
        relocating.misfits (.finish notes fields.fragment)
      exact relocating.unlessReferred inside notes ctx.keyNotes (objectReference ctx.inArray)
  | .key name type required notes, ctx, ctx', nearby, looks => by
      rw [Node.visit, Node.visit]
      exact relocating.enter nearby fun deeper =>
        relocating.noted (visit relocating type _ _ deeper (.field ctx ctx' name notes)) notes
  | .enum type values notes, ctx, ctx', nearby, looks => by
      rw [Node.visit, Node.visit]
      exact relocating.enter nearby fun deeper =>
        relocating.noted (visit relocating type ctx.inner ctx'.inner deeper looks.inner) notes
  | .lazy notes, ctx, ctx', nearby, looks => by
      rw [Node.visit, Node.visit]
      exact relocating.enter nearby fun _ =>
        relocating.same fun _ _ impossible => by cases impossible
  | .bare notes, ctx, ctx', nearby, looks => by
      rw [Node.visit, Node.visit]
      exact relocating.enter nearby fun _ =>
        relocating.same fun _ _ impossible => by cases impossible
  | .plain v, ctx, ctx', nearby, looks => relocating.plain nearby v

/-- The same for the alternatives in a slot. -/
theorem visitAlternatives (relocating : Relocating o o' near alike) :
    ∀ (types : Children) (ctx ctx' : Context) (found : List Members),
      near ctx.depth ctx'.depth → ctx.LooksLike ctx' →
      alike (Node.visitAlternatives o ctx found types) (Node.visitAlternatives o' ctx' found types)
  | .nodes items, ctx, ctx', found, nearby, looks => by
      rw [Node.visitAlternatives, Node.visitAlternatives]
      exact visitEach relocating items ctx ctx' found nearby looks
  | .value v, ctx, ctx', found, nearby, looks => by
      rw [Node.visitAlternatives, Node.visitAlternatives]
      refine relocating.bind (relocating.misfits (.typed _)) fun items => ?_
      exact relocating.bind (relocating.plains nearby items) fun _ => relocating.misfits (.ok found)

/-- The same for some alternatives. -/
theorem visitEach (relocating : Relocating o o' near alike) :
    ∀ (nodes : List Node) (ctx ctx' : Context) (found : List Members),
      near ctx.depth ctx'.depth → ctx.LooksLike ctx' →
      alike (Node.visitEach o ctx found nodes) (Node.visitEach o' ctx' found nodes)
  | [], ctx, ctx', found, nearby, looks => relocating.misfits (.ok found)
  | node :: rest, ctx, ctx', found, nearby, looks => by
      rw [visitEach_cons, visitEach_cons]
      have gathered := relocating.bind (visit relocating node ctx ctx' nearby looks) fun fragment =>
        relocating.misfits (.gather found fragment)
      -- the alternatives of a union without notes are visited at the depth of the union
      have alternative : alike (visitAlternative o ctx found node)
          (visitAlternative o' ctx' found node) := by
        cases node with
        | sum types notes =>
            rw [visitAlternative, visitAlternative]
            split
            · exact gathered
            · exact visitAlternatives relocating types ctx ctx' found nearby looks
        | _ => exact gathered
      exact relocating.bind alternative fun next =>
        visitEach relocating rest ctx ctx' next nearby looks

/-- The same for the fields in a slot. -/
theorem visitKeys (relocating : Relocating o o' near alike) :
    ∀ (keys : Children) (ctx ctx' : Context), near ctx.depth ctx'.depth → ctx.LooksLike ctx' →
      alike (Node.visitKeys o ctx keys) (Node.visitKeys o' ctx' keys)
  | .nodes items, ctx, ctx', nearby, looks => by
      rw [Node.visitKeys, Node.visitKeys]
      exact visitFields relocating items ctx ctx' {} nearby looks
  | .value v, ctx, ctx', nearby, looks => by
      rw [Node.visitKeys, Node.visitKeys]
      refine relocating.bind (relocating.misfits (.typed _)) fun items => ?_
      exact relocating.bind (relocating.plains nearby items) fun _ => relocating.misfits (.ok _)

/-- The same for some fields. -/
theorem visitFields (relocating : Relocating o o' near alike) :
    ∀ (nodes : List Node) (ctx ctx' : Context) (found : Fields),
      near ctx.depth ctx'.depth → ctx.LooksLike ctx' →
      alike (Node.visitFields o ctx found nodes) (Node.visitFields o' ctx' found nodes)
  | [], ctx, ctx', found, nearby, looks => relocating.misfits (.ok found)
  | node :: rest, ctx, ctx', found, nearby, looks => by
      rw [Node.visitFields, Node.visitFields]
      refine relocating.bind (visit relocating node ctx ctx' nearby looks) fun fragment => ?_
      refine relocating.bind (relocating.misfits (.add found node fragment)) fun next => ?_
      exact visitFields relocating rest ctx ctx' next nearby looks

end

end Relocating

/-! ## One limit -/

/-- Two steps with one outcome, unless a limit stops one of them. -/
def AgreeUnstopped {α : Type} (first second : Except CompileFault α) : Prop :=
  Unbounded first → Unbounded second → first = second

namespace AgreeUnstopped

variable {α β : Type} {step step' : Except CompileFault α}
  {next next' : α → Except CompileFault β}

theorem refl (step : Except CompileFault α) : AgreeUnstopped step step := fun _ _ => rfl

/-- The rest of a chain is only reached with the value of its first step. -/
theorem bind_ok (first : AgreeUnstopped step step')
    (later : ∀ value, step = .ok value → AgreeUnstopped (next value) (next' value)) :
    AgreeUnstopped (step >>= next) (step' >>= next') := by
  intro unbounded unbounded'
  obtain rfl := first unbounded.first unbounded'.first
  cases step with
  | ok value => exact later value rfl unbounded unbounded'
  | error fault => rfl

theorem bind (first : AgreeUnstopped step step')
    (later : ∀ value, AgreeUnstopped (next value) (next' value)) :
    AgreeUnstopped (step >>= next) (step' >>= next') :=
  first.bind_ok fun value _ => later value

/-- Chains that are the same after their first steps. -/
theorem head (first : AgreeUnstopped step step') :
    AgreeUnstopped (step >>= next) (step' >>= next) :=
  first.bind fun _ => refl _

/-- Chains that have their first step in common. -/
theorem tail (later : ∀ value, AgreeUnstopped (next value) (next' value)) :
    AgreeUnstopped (step >>= next) (step >>= next') :=
  (refl step).bind later

end AgreeUnstopped

/-- Depths that a limit does not refuse as too deep are all alike to it. -/
theorem allow_agrees (o : Options) (depth other : Nat) :
    AgreeUnstopped (o.allow depth) (o.allow other) := by
  intro unbounded unbounded'
  cases own : o.maxDepth.quantity? with
  | none => simp only [Options.allow, own]
  | some limit =>
      cases limit with
      | finite limit =>
          have within {depth : Nat} (unbounded : Unbounded (o.allow depth)) :
              o.allow depth = .ok () := by
            simp only [Options.allow, own] at unbounded ⊢
            split at unbounded
            · exact absurd rfl (unbounded depth o.maxDepth)
            · rename_i within
              exact if_neg within
          rw [within unbounded, within unbounded']
      | infinite negative =>
          cases negative with
          | true =>
              simp only [Options.allow, own, if_true] at unbounded
              exact absurd rfl (unbounded depth o.maxDepth)
          | false => simp only [Options.allow, own, Bool.false_eq_true, if_false]
      | nan => simp only [Options.allow, own]

/-- Where a depth is within the limit, another one that it does not refuse is so too. -/
theorem allow_of_unbounded {o : Options} {depth other : Nat} (entered : o.allow depth = .ok ())
    (unbounded : Unbounded (o.allow other)) : o.allow other = .ok () :=
  (allow_agrees o depth other (entered ▸ .ok ()) unbounded).symm.trans entered

/-- Where a depth is within the limit, another one is so too, or the limit stops what is there. -/
theorem AgreeUnstopped.enter {o : Options} {depth : Nat} (entered : o.allow depth = .ok ())
    {α : Type} {inside outcome : Except CompileFault α} (agree : AgreeUnstopped inside outcome)
    (other : Nat) : AgreeUnstopped (o.allow other >>= fun _ => inside) outcome := by
  intro unbounded unbounded'
  have allowed := allow_of_unbounded entered unbounded.first
  rw [allowed] at unbounded ⊢
  exact agree unbounded unbounded'

/-- Under one limit outcomes are the same at any two depths, unless it stops one of them. -/
theorem relocating_unstopped (o : Options) : Relocating o o (fun _ _ => True) AgreeUnstopped where
  loose := rfl
  same _ _ _ := rfl
  bind := AgreeUnstopped.bind
  enter _ below := (allow_agrees o _ _).bind fun _ => below trivial

/-- In contexts that look alike a node has one outcome, unless a limit stops it in one of them. -/
theorem visit_relocated (o : Options) (node : Node) {ctx other : Context}
    (looks : ctx.LooksLike other) : AgreeUnstopped (visit o ctx node) (visit o other node) :=
  (relocating_unstopped o).visit node ctx other trivial looks

/-- The depth of a node does nothing but stop its visit. -/
theorem visit_atDepth (o : Options) (ctx : Context) (other : Nat) (node : Node) :
    AgreeUnstopped (visit o ctx node) (visit o (ctx.atDepth other) node) :=
  visit_relocated o node (.atDepth ctx other)

end Node

end Draftsman
