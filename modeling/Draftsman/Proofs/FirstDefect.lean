/-
# Draftsman.Proofs.FirstDefect -- a compilation fails at the first defect

The places of a description are what a visit comes to, from the root down and from left
to right (`Node.places`); an object type that a reference stands for has none below it, and
a union without notes stands for its alternatives.  A place can have a defect
(`Node.defect?`): it is too deep, it is no node of the twelve kinds, it is an unknown
predicate in strict mode, or its operand cannot be converted.

The main result is `compile_first_defect`: a regular description has a document exactly if
no place has a defect, and otherwise it fails with the defect of the first place that has
one.  A visit is followed place by place (`Follows`).
-/
import Draftsman.Proofs.Depth
import Draftsman.Proofs.Quiet

namespace Draftsman

set_option autoImplicit false

namespace Node

/-! ## Places -/

/-- What a visit comes to, and at which depth. -/
structure Place where
  depth : Nat
  node : Node

mutual

/-- What a visit comes to, in order.  The notes are those of the enclosing field. -/
def places (depth : Nat) (keyNotes : Value) : Node → List Place
  | constructor type fn notes =>
      ⟨depth, constructor type fn notes⟩ :: places (depth + 1) keyNotes type
  | constrained type rule notes =>
      ⟨depth, constrained type rule notes⟩ ::
        (places (depth + 1) keyNotes type ++ places (depth + 1) keyNotes rule)
  | sum types notes => ⟨depth, sum types notes⟩ :: placesOfSlot (depth + 1) keyNotes types
  | intersection left right notes =>
      ⟨depth, intersection left right notes⟩ ::
        (places (depth + 1) keyNotes left ++ places (depth + 1) keyNotes right)
  | mapping fields notes =>
      ⟨depth, mapping fields notes⟩ ::
        if refers notes keyNotes then []
        else match fields with
          | plain .null => []
          | other => places (depth + 1) keyNotes other
  | aggregate name fields notes =>
      ⟨depth, aggregate name fields notes⟩ ::
        if refers notes keyNotes then []
        else match fields with
          | plain .null => []
          | other => places (depth + 1) keyNotes other
  | array member notes => ⟨depth, array member notes⟩ :: places (depth + 1) keyNotes member
  | schema keys notes =>
      ⟨depth, schema keys notes⟩ ::
        if refers notes keyNotes then [] else placesOfFields (depth + 1) keyNotes keys
  | key name type required notes =>
      ⟨depth, key name type required notes⟩ :: places (depth + 1) notes type
  | enum type values notes => ⟨depth, enum type values notes⟩ :: places (depth + 1) keyNotes type
  | nominal primitive notes => [⟨depth, nominal primitive notes⟩]
  | predicate name operand notes => [⟨depth, predicate name operand notes⟩]
  | lazy notes => [⟨depth, lazy notes⟩]
  | bare notes => [⟨depth, bare notes⟩]
  | plain v => [⟨depth, plain v⟩]

def placesOfSlot (depth : Nat) (keyNotes : Value) : Children → List Place
  | .nodes items => placesOfEach depth keyNotes items
  | .value v => (v.items?.getD []).map fun item => ⟨depth, plain item⟩

/-- What a visit of some alternatives comes to; a union without notes stands for its own
alternatives. -/
def placesOfEach (depth : Nat) (keyNotes : Value) : List Node → List Place
  | [] => []
  | node :: rest =>
      (match node with
        | sum types notes =>
            if notes.truthy then places depth keyNotes (sum types notes)
            else placesOfSlot depth keyNotes types
        | other => places depth keyNotes other) ++ placesOfEach depth keyNotes rest

def placesOfFields (depth : Nat) (keyNotes : Value) : Children → List Place
  | .nodes items => placesOfKeys depth keyNotes items
  | .value v => (v.items?.getD []).map fun item => ⟨depth, plain item⟩

def placesOfKeys (depth : Nat) (keyNotes : Value) : List Node → List Place
  | [] => []
  | node :: rest => places depth keyNotes node ++ placesOfKeys depth keyNotes rest

end

/-- What a visit of the field set of an object type comes to; null stands for none. -/
def placesOfFieldSet (depth : Nat) (keyNotes : Value) : Node → List Place
  | plain .null => []
  | fields => places depth keyNotes fields

theorem places_mapping (depth : Nat) (keyNotes : Value) (fields : Node) (notes : Value) :
    places depth keyNotes (mapping fields notes) = ⟨depth, mapping fields notes⟩ ::
      if refers notes keyNotes then [] else placesOfFieldSet (depth + 1) keyNotes fields := by
  cases fields with
  | plain v => cases v <;> rfl
  | _ => rfl

theorem places_aggregate (depth : Nat) (keyNotes name : Value) (fields : Node) (notes : Value) :
    places depth keyNotes (aggregate name fields notes) = ⟨depth, aggregate name fields notes⟩ ::
      if refers notes keyNotes then [] else placesOfFieldSet (depth + 1) keyNotes fields := by
  cases fields with
  | plain v => cases v <;> rfl
  | _ => rfl

/-- What a visit of one alternative comes to. -/
def placesOfAlternative (depth : Nat) (keyNotes : Value) : Node → List Place
  | sum types notes =>
      if notes.truthy then places depth keyNotes (sum types notes)
      else placesOfSlot depth keyNotes types
  | node => places depth keyNotes node

theorem placesOfEach_cons (depth : Nat) (keyNotes : Value) (node : Node) (rest : List Node) :
    placesOfEach depth keyNotes (node :: rest) =
      placesOfAlternative depth keyNotes node ++ placesOfEach depth keyNotes rest := by
  cases node <;> rfl

/-! ## Defects -/

/-- The defect of what stands at a place, apart from its depth. -/
def ownDefect? (o : Options) : Node → Option CompileFault
  | predicate name operand _ =>
      match name.text?.bind constraint? with
      | none => if o.loose.truthy then none else some (.unknownPredicate name)
      | some c => (fault? (c.reading.apply operand)).map .conversion
  | node => if node.isNode then none else some (.unsupported node.foreignKind)

/-- The defect of a place: its depth comes before what stands there. -/
def defect? (o : Options) (place : Place) : Option CompileFault :=
  (fault? (o.allow place.depth)).or (ownDefect? o place.node)

/-- Under a limit that is an integer the places beyond it are too deep and no others. -/
theorem defect?_of_int {o : Options} {limit : Int} (limited : o.maxDepth = .int limit)
    (place : Place) :
    defect? o place =
      if limit < place.depth then some (.tooDeep place.depth (.int limit))
      else ownDefect? o place.node := by
  rw [defect?, Options.allow_int limited]
  split <;> rfl

/-! ## Following a visit -/

/-- A step fails with the defect of the first place that has one, and not otherwise. -/
def Follows {α : Type} (o : Options) (step : Except CompileFault α) (here : List Place) : Prop :=
  fault? step = here.findSome? (defect? o)

namespace Follows

variable {α β : Type} {o : Options} {step : Except CompileFault α}
  {next : α → Except CompileFault β} {here later : List Place}

theorem of_ok (done : ∃ value, step = .ok value) : Follows o step [] :=
  fault?_eq_none.mpr done

/-- Steps that follow one another visit their places one after the other. -/
theorem bind (first : Follows o step here)
    (rest : ∀ value, step = .ok value → Follows o (next value) later) :
    Follows o (step >>= next) (here ++ later) := by
  rw [Follows, fault?_bind, List.findSome?_append, ← first]
  cases step with
  | ok value =>
      have after : fault? (next value) = later.findSome? (defect? o) := rest value rfl
      simpa using after
  | error fault => rfl

/-- A last step that succeeds visits nothing more. -/
theorem bind_ok (first : Follows o step here)
    (rest : ∀ value, step = .ok value → ∃ result, next value = .ok result) :
    Follows o (step >>= next) here := by
  have whole : Follows o (step >>= next) (here ++ []) :=
    first.bind fun value done => of_ok (rest value done)
  rwa [List.append_nil] at whole

theorem after_ok {value : α} (done : step = .ok value) (rest : Follows o (next value) here) :
    Follows o (step >>= next) here := by
  subst done
  exact rest

/-- A node is looked at before what is below it. -/
theorem enter {depth : Nat} {node : Node} {below : List Place} {inside : Except CompileFault β}
    (rest : fault? inside = (ownDefect? o node).or (below.findSome? (defect? o))) :
    Follows o (o.allow depth >>= fun _ => inside) (⟨depth, node⟩ :: below) := by
  rw [Follows, fault?_bind, List.findSome?_cons]
  cases allowed : o.allow depth with
  | ok _ =>
      simp only [fault?_ok, Option.none_or, defect?, allowed, rest]
      cases ownDefect? o node <;> rfl
  | error fault => simp [defect?, allowed]

/-- A node of the twelve kinds other than a predicate has no defect but its depth. -/
theorem enter_sound {depth : Nat} {node : Node} {below : List Place}
    {inside : Except CompileFault β} (sound : ownDefect? o node = none)
    (rest : Follows o inside below) :
    Follows o (o.allow depth >>= fun _ => inside) (⟨depth, node⟩ :: below) :=
  enter (by rw [sound, Option.none_or]; exact rest)

end Follows

/-! ## Parts of a visit -/

/-- The fault of a predicate whose name is a key does not depend on what is on its left. -/
theorem fault?_predicateFragment (o : Options) (leftType : Value) {name operand : Value}
    (notes : Value) (keyed : name.isKey = true) :
    fault? (predicateFragment o leftType name operand) =
      ownDefect? o (predicate name operand notes) := by
  have reading := lookupName_reading leftType name
  simp only [predicateFragment, ownDefect?, keyed]
  cases listed : name.text?.bind constraint? with
  | none =>
      rw [listed, Option.map_none, Option.map_eq_none_iff] at reading
      rw [reading]
      cases o.loose.truthy <;> rfl
  | some c =>
      rw [listed, Option.map_some, Option.map_eq_some_iff] at reading
      obtain ⟨c', looked, same⟩ := reading
      rw [looked]
      simp only [same]
      cases c.reading.apply operand <;> rfl

theorem visitPlain_follows (o : Options) (ctx : Context) (v : Value) :
    Follows o (visitPlain o ctx v) [⟨ctx.depth, plain v⟩] := Follows.enter rfl

theorem visitPlains_follows (o : Options) (ctx : Context) (values : List Value) :
    Follows o (visitPlains o ctx values) (values.map fun v => ⟨ctx.depth, plain v⟩) := by
  cases values with
  | nil => rfl
  | cons v rest =>
      have first := visitPlain_follows o ctx v
      have failed : ∃ fault, fault? (visitPlain o ctx v) = some fault := by
        rw [visitPlain, fault?_bind]
        cases o.allow ctx.depth <;> simp
      obtain ⟨fault, failed⟩ := failed
      have own : defect? o ⟨ctx.depth, plain v⟩ = some fault := by
        rw [Follows, failed] at first
        simpa using first.symm
      rw [Follows, List.map_cons, List.findSome?_cons, own, visitPlains,
        fault?_eq_some.mp failed]
      rfl

/-- The reference in force, read off the notes. -/
theorem reference_isNull {notes keyNotes : Value} (noted : ∃ members, notes = .dict members)
    (keyNoted : ∃ members, keyNotes = .dict members) :
    ∃ ref, reference notes keyNotes = .ok ref ∧ ref.isNull = !refers notes keyNotes := by
  obtain ⟨members, rfl⟩ := noted
  obtain ⟨outer, rfl⟩ := keyNoted
  exact ⟨_, rfl, by simp [refers, Value.members]⟩

theorem keyNotes_noted {fits : Node → Prop}
    (noted : ∀ {node : Node}, fits node → ∃ members, node.notes = .dict members) {ctx : Context}
    (within : ctx.Within fits) : ∃ members, ctx.keyNotes = .dict members := by
  rcases within with none | ⟨node, fit, same⟩
  · exact ⟨[], none⟩
  · exact same ▸ noted fit

mutual

/-- Slots that can be gone through are enumerable, with those of the unions in them. -/
theorem enumerable_of_offers : ∀ {types : Children}, offersAlternatives types = true →
    (∀ part ∈ partsOfSlot types, ∀ {types notes}, part = sum types notes →
      offersAlternatives types = true) → enumerable types = true
  | .nodes _, _, offered => allEnumerable_of_offers offered
  | .value _, offered, _ => offered

theorem allEnumerable_of_offers : ∀ {nodes : List Node},
    (∀ part ∈ partsOfEach nodes, ∀ {types notes}, part = sum types notes →
      offersAlternatives types = true) → allEnumerable nodes = true
  | [], _ => rfl
  | .sum types notes :: rest, offered => by
      obtain ⟨first, others⟩ := List.forall_mem_append.mp offered
      obtain ⟨own, below⟩ := List.forall_mem_cons.mp first
      simp [allEnumerable, enumerable_of_offers (own rfl) below, allEnumerable_of_offers others]
  | .nominal _ _ :: rest, offered | .constructor _ _ _ :: rest, offered
  | .constrained _ _ _ :: rest, offered | .predicate _ _ _ :: rest, offered
  | .intersection _ _ _ :: rest, offered | .mapping _ _ :: rest, offered
  | .aggregate _ _ _ :: rest, offered | .array _ _ :: rest, offered
  | .schema _ _ :: rest, offered | .key _ _ _ _ :: rest, offered
  | .enum _ _ _ :: rest, offered | .lazy _ :: rest, offered | .bare _ :: rest, offered
  | .plain _ :: rest, offered => by
      simpa [allEnumerable] using
        allEnumerable_of_offers (List.forall_mem_append.mp offered).2

end

/-! ## Visits -/

theorem visitFieldSet_follows {o : Options} {ctx : Context} {fields : Node}
    (visited : Follows o (visit o ctx.inner fields) (places (ctx.depth + 1) ctx.keyNotes fields)) :
    Follows o (visitFieldSet o ctx fields)
      (placesOfFieldSet (ctx.depth + 1) ctx.keyNotes fields) := by
  cases fields with
  | plain v =>
      cases v with
      | null => rfl
      | _ => exact visited
  | _ => exact visited

/-- A reference in force stands for what is inside an object type. -/
theorem unlessReferred_follows {o : Options} {ctx : Context} {node : Node} (own : node.Regular)
    (within : ctx.Within Regular) {inside : Except CompileFault Members} {below : List Place}
    (follows : Follows o inside below) (byReference : Value → Members) :
    Follows o
      (reference node.notes ctx.keyNotes >>= fun ref =>
        if ref.isNull then inside else finish node.notes (byReference ref))
      (if refers node.notes ctx.keyNotes then [] else below) := by
  obtain ⟨ref, found, inForce⟩ := reference_isNull own.noted (keyNotes_noted Regular.noted within)
  refine Follows.after_ok found ?_
  rw [inForce]
  cases refers node.notes ctx.keyNotes with
  | true => exact Follows.of_ok (finish_ok own.noted _)
  | false => exact follows

/-- The values in a slot that is no tuple are none of the twelve kinds. -/
theorem visitValue_follows {α : Type} {o : Options} {ctx : Context} {v : Value}
    (offered : v.items?.isSome = true) (result : α) :
    Follows o
      (typed v.items? >>= fun items => visitPlains o ctx items >>= fun _ => pure result)
      ((v.items?.getD []).map fun item => ⟨ctx.depth, plain item⟩) := by
  obtain ⟨items, listed⟩ := Option.isSome_iff_exists.mp offered
  refine Follows.after_ok (typed_eq_ok.mpr listed) ?_
  rw [listed]
  exact (visitPlains_follows o ctx items).bind_ok fun _ _ => ⟨result, rfl⟩

mutual

/-- A visit of a regular tree follows its places. -/
theorem visit_follows (o : Options) : ∀ (node : Node) (ctx : Context), ctx.Within Regular →
    (∀ part ∈ node.parts, part.Regular) →
      Follows o (visit o ctx node) (places ctx.depth ctx.keyNotes node)
  | .nominal primitive notes, ctx, within, regular => by
      have own := regular _ List.mem_cons_self
      rw [visit, places]
      exact Follows.enter_sound rfl (Follows.of_ok (finish_ok own.noted _))
  | .constructor type fn notes, ctx, within, regular => by
      obtain ⟨own, below⟩ := List.forall_mem_cons.mp regular
      rw [visit, places]
      exact Follows.enter_sound rfl ((visit_follows o type ctx.inner within.inner below).bind_ok
        fun _ _ => finish_ok own.noted _)
  | .constrained type rule notes, ctx, within, regular => by
      obtain ⟨own, below⟩ := List.forall_mem_cons.mp regular
      obtain ⟨typeRegular, ruleRegular⟩ := List.forall_mem_append.mp below
      rw [visit, places]
      refine Follows.enter_sound rfl ?_
      refine (visit_follows o type ctx.inner within.inner typeRegular).bind fun base baseVisited => ?_
      refine (visit_follows o rule _ (within.ruleFor _) ruleRegular).bind_ok fun extra visited => ?_
      exact joined_ok own.noted ((quiet_kept o).visit within.inner typeRegular baseVisited)
        ((quiet_kept o).visit (within.ruleFor _) ruleRegular visited)
  | .predicate name operand notes, ctx, within, regular => by
      have own := regular _ List.mem_cons_self
      rw [visit, places]
      refine Follows.enter ?_
      obtain ⟨text, named⟩ := Option.isSome_iff_exists.mp (own.predicateName rfl)
      have keyed := Value.isKey_of_text? named
      rw [← fault?_predicateFragment o ctx.leftType notes keyed, fault?_bind]
      cases emitted : predicateFragment o ctx.leftType name operand with
      | ok fragment =>
          rw [fault?_ok, Option.none_or]
          exact fault?_eq_none.mpr (finish_ok own.noted fragment)
      | error fault => rfl
  | .sum types notes, ctx, within, regular => by
      obtain ⟨own, below⟩ := List.forall_mem_cons.mp regular
      rw [visit, places]
      refine Follows.enter_sound rfl ?_
      have enumerated : enumerable types = true :=
        enumerable_of_offers (own.alternatives rfl) fun part held _ _ same =>
          (below part held).alternatives same
      rw [enumerated]
      exact (visitAlternatives_follows o types ctx.alternative [] within.alternative
        (own.alternatives rfl) below (by simp)).bind_ok fun _ _ => finish_ok own.noted _
  | .intersection left right notes, ctx, within, regular => by
      obtain ⟨own, below⟩ := List.forall_mem_cons.mp regular
      obtain ⟨leftRegular, rightRegular⟩ := List.forall_mem_append.mp below
      rw [visit, places]
      refine Follows.enter_sound rfl ?_
      refine (visit_follows o left ctx.inner within.inner leftRegular).bind fun base baseVisited => ?_
      refine (visit_follows o right _ (within.ruleFor _) rightRegular).bind_ok fun extra visited => ?_
      exact joined_ok own.noted ((quiet_kept o).visit within.inner leftRegular baseVisited)
        ((quiet_kept o).visit (within.ruleFor _) rightRegular visited)
  | .mapping fields notes, ctx, within, regular => by
      obtain ⟨own, below⟩ := List.forall_mem_cons.mp regular
      rw [visit_mapping, places_mapping]
      have visited := visitFieldSet_follows (visit_follows o fields ctx.inner within.inner below)
      exact Follows.enter_sound rfl (unlessReferred_follows own within
        (visited.bind_ok fun _ _ => finish_ok own.noted _) (objectReference ctx.inArray))
  | .aggregate name fields notes, ctx, within, regular => by
      obtain ⟨own, below⟩ := List.forall_mem_cons.mp regular
      rw [visit_aggregate, places_aggregate]
      have visited := visitFieldSet_follows (visit_follows o fields ctx.inner within.inner below)
      exact Follows.enter_sound rfl (unlessReferred_follows own within
        (visited.bind_ok fun _ _ => finish_ok own.noted _) (objectReference true))
  | .array member notes, ctx, within, regular => by
      obtain ⟨own, below⟩ := List.forall_mem_cons.mp regular
      rw [visit, places]
      refine Follows.enter_sound rfl ?_
      refine (visit_follows o member ctx.element within.element below).bind_ok fun items visited => ?_
      have memberRegular := below member (mem_parts_self (isNode_of_visit visited))
      obtain ⟨fragment, built⟩ :=
        arrayFragment_ok memberRegular.noted memberRegular.notesQuiet items
      obtain ⟨whole, finished⟩ := finish_ok own.noted fragment
      exact ⟨whole, bind_eq_ok.mpr ⟨fragment, built, finished⟩⟩
  | .schema keys notes, ctx, within, regular => by
      obtain ⟨own, below⟩ := List.forall_mem_cons.mp regular
      rw [visit, places]
      have visited := visitKeys_follows o keys ctx.inner within.inner (own.fields rfl) below
      exact Follows.enter_sound rfl (unlessReferred_follows own within
        (visited.bind_ok fun _ _ => finish_ok own.noted _) (objectReference ctx.inArray))
  | .key name type required notes, ctx, within, regular => by
      obtain ⟨own, below⟩ := List.forall_mem_cons.mp regular
      rw [visit, places]
      exact Follows.enter_sound rfl ((visit_follows o type (ctx.field name notes)
        (.field own name) below).bind_ok fun _ _ => finish_ok own.noted _)
  | .enum type values notes, ctx, within, regular => by
      obtain ⟨own, below⟩ := List.forall_mem_cons.mp regular
      rw [visit, places]
      exact Follows.enter_sound rfl ((visit_follows o type ctx.inner within.inner below).bind_ok
        fun _ _ => finish_ok own.noted _)
  | .lazy notes, ctx, within, regular => Follows.enter rfl
  | .bare notes, ctx, within, regular => Follows.enter rfl
  | .plain v, ctx, within, regular => visitPlain_follows o ctx v

/-- The same for the alternatives in a slot. -/
theorem visitAlternatives_follows (o : Options) :
    ∀ (types : Children) (ctx : Context) (found : List Members), ctx.Within Regular →
      offersAlternatives types = true → (∀ part ∈ partsOfSlot types, part.Regular) →
      (∀ result ∈ found, QuietFragment result) →
      Follows o (visitAlternatives o ctx found types) (placesOfSlot ctx.depth ctx.keyNotes types)
  | .nodes items, ctx, found, within, offered, regular, quiet => by
      rw [visitAlternatives, placesOfSlot]
      exact visitEach_follows o items ctx found within regular quiet
  | .value v, ctx, found, within, offered, regular, quiet => by
      rw [visitAlternatives, placesOfSlot]
      exact visitValue_follows offered found

/-- The same for some alternatives. -/
theorem visitEach_follows (o : Options) :
    ∀ (nodes : List Node) (ctx : Context) (found : List Members), ctx.Within Regular →
      (∀ part ∈ partsOfEach nodes, part.Regular) → (∀ result ∈ found, QuietFragment result) →
      Follows o (visitEach o ctx found nodes) (placesOfEach ctx.depth ctx.keyNotes nodes)
  | [], ctx, found, within, regular, quiet => rfl
  | node :: rest, ctx, found, within, regular, quiet => by
      obtain ⟨first, others⟩ := List.forall_mem_append.mp regular
      rw [visitEach_cons, placesOfEach_cons]
      -- an alternative that is visited itself can be gathered with those before it
      have gathered : Follows o ((visit o ctx node).bind (gather found))
          (places ctx.depth ctx.keyNotes node) :=
        (visit_follows o node ctx within first).bind_ok fun fragment visited =>
          gather_ok quiet ((quiet_kept o).visit within first visited)
      have alternative : Follows o (visitAlternative o ctx found node)
          (placesOfAlternative ctx.depth ctx.keyNotes node) := by
        cases node with
        | sum types notes =>
            obtain ⟨own, below⟩ := List.forall_mem_cons.mp first
            rw [visitAlternative, placesOfAlternative]
            split
            · exact gathered
            · exact visitAlternatives_follows o types ctx found within (own.alternatives rfl) below
                quiet
        | _ => exact gathered
      refine alternative.bind fun next done =>
        visitEach_follows o rest ctx next within others ?_
      have single : visitEach o ctx found [node] = .ok next := by
        rw [visitEach_cons, done]
        rfl
      exact (quiet_kept o).visitEach within (by simpa [partsOfEach] using first) quiet single

/-- The same for the fields in a slot. -/
theorem visitKeys_follows (o : Options) : ∀ (keys : Children) (ctx : Context),
    ctx.Within Regular → offersFields keys = true → (∀ part ∈ partsOfSlot keys, part.Regular) →
      Follows o (visitKeys o ctx keys) (placesOfFields ctx.depth ctx.keyNotes keys)
  | .nodes items, ctx, within, fields, regular => by
      rw [visitKeys, placesOfFields]
      exact visitFields_follows o items ctx {} within (List.all_eq_true.mp fields) regular
  | .value v, ctx, within, fields, regular => by
      rw [visitKeys, placesOfFields]
      refine visitValue_follows ?_ _
      simp only [offersFields] at fields
      split at fields
      · rename_i items listed
        rw [listed]
        rfl
      · cases fields

/-- The same for some fields. -/
theorem visitFields_follows (o : Options) : ∀ (nodes : List Node) (ctx : Context) (found : Fields),
    ctx.Within Regular → (∀ node ∈ nodes, node.isKey = true) →
      (∀ part ∈ partsOfEach nodes, part.Regular) →
      Follows o (visitFields o ctx found nodes) (placesOfKeys ctx.depth ctx.keyNotes nodes)
  | [], ctx, found, within, fields, regular => rfl
  | node :: rest, ctx, found, within, fields, regular => by
      obtain ⟨first, others⟩ := List.forall_mem_append.mp regular
      obtain ⟨field, laterFields⟩ := List.forall_mem_cons.mp fields
      rw [visitFields, placesOfKeys]
      refine (visit_follows o node ctx within first).bind fun fragment visited => ?_
      have own := first node (mem_parts_self (isNode_of_visit visited))
      obtain ⟨next, added⟩ := add_ok field own found fragment
      rw [added]
      exact visitFields_follows o rest ctx next within laterFields others

end

/-! ## Compilations -/

/-- A compilation of a regular description follows its places. -/
theorem compile_follows (o : Options) {node : Node} (regular : ∀ part ∈ node.parts, part.Regular) :
    Follows o (node.compile o) (places 0 (.dict []) node) :=
  (visit_follows o node Context.root Context.Within.root regular).bind_ok fun _ _ => ⟨_, rfl⟩

/-- A regular description has a document exactly if no place has a defect; otherwise its
compilation fails with the defect of the first place that has one.  Under a limit that is
an integer, to be too deep is to be beyond it. -/
theorem compile_first_defect (o : Options) {node : Node}
    (regular : ∀ part ∈ node.parts, part.Regular) :
    ((∃ document, node.compile o = .ok document) ↔
        ∀ place ∈ places 0 (.dict []) node, defect? o place = none) ∧
      (∀ fault, node.compile o = .error fault ↔
        ∃ before place after, places 0 (.dict []) node = before ++ place :: after ∧
          (∀ earlier ∈ before, defect? o earlier = none) ∧ defect? o place = some fault) ∧
      ∀ limit : Int, o.maxDepth = .int limit → ∀ place, defect? o place =
        if limit < place.depth then some (.tooDeep place.depth (.int limit))
        else ownDefect? o place.node := by
  have follows : fault? (node.compile o) = (places 0 (.dict []) node).findSome? (defect? o) :=
    compile_follows o regular
  refine ⟨?_, fun fault => ?_, fun limit limited => defect?_of_int limited⟩
  · rw [← fault?_eq_none, follows, List.findSome?_eq_none_iff]
  · rw [← fault?_eq_some, follows, List.findSome?_eq_some_iff]
    constructor
    · rintro ⟨before, place, after, whole, own, clean⟩
      exact ⟨before, place, after, whole, clean, own⟩
    · rintro ⟨before, place, after, whole, clean, own⟩
      exact ⟨before, place, after, whole, own, clean⟩

def strayNode : Node :=
  constrained (nominal (.primitive .string) (.dict []))
    (sum (.nodes [predicate (.str "max_size?") (.int 7) (.dict []), plain (.tuple [])]) (.dict []))
    (.dict [])

theorem compile_first_defect_stray :
    strayNode.compile {} = .error (.unsupported (.str "tuple")) := by
  refine ((compile_first_defect {} fun part held => ?_).2.1 _).mpr
    ⟨(places 0 (.dict []) strayNode).take 4, ⟨2, plain (.tuple [])⟩, [], rfl, fun earlier held => ?_,
      rfl⟩
  · simp only [strayNode, parts, partsOfSlot, partsOfEach, List.append_nil, List.cons_append,
      List.nil_append, List.mem_cons, List.not_mem_nil, or_false] at held
    rcases held with rfl | rfl | rfl | rfl
    all_goals
      refine ⟨⟨[], rfl⟩, rfl, fun same => ?_, fun same => ?_, fun same => ?_, fun same => ?_,
        fun same => ?_⟩
      all_goals cases same <;> rfl
  · simp only [strayNode, places, placesOfSlot, placesOfEach, List.append_nil, List.cons_append,
      List.nil_append, List.take_succ_cons, List.take_zero, List.mem_cons, List.not_mem_nil,
      or_false] at held
    rcases held with rfl | rfl | rfl | rfl <;> rfl

end Node

end Draftsman
