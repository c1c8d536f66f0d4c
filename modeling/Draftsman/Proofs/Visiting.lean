/-
# Draftsman.Proofs.Visiting -- what every visit keeps

A fragment is made from the fragments below it in one of a few ways.  A property of
fragments, each in its context, that all of these ways keep (`Node.Kept`, one field for
each of them) holds of every fragment that a visit gives (`Kept.visit`).  Facts about all
documents are proved by giving the fields; the walk over the tree is done here, once.

What the fields may ask of the description is a property of its nodes (`fits`).  The
context brings nothing with it but the notes of the enclosing field, which are those of a
node that fits too (`Context.Within`).
-/
import Draftsman.Proofs.Dictionary
import Draftsman.Proofs.Distinct
import Draftsman.Proofs.Steps
import Draftsman.Proofs.Tree

namespace Draftsman

set_option autoImplicit false

/-- A context whose notes are none or those of a node that fits. -/
def Context.Within (fits : Node → Prop) (ctx : Context) : Prop :=
  ctx.keyNotes = .dict [] ∨ ∃ node, fits node ∧ node.notes = ctx.keyNotes

namespace Context.Within

variable {fits : Node → Prop} {ctx : Context}

theorem root : Context.root.Within fits := .inl rfl

theorem inner (within : ctx.Within fits) : ctx.inner.Within fits := within

theorem ruleFor (within : ctx.Within fits) (primitive : Value) :
    (ctx.ruleFor primitive).Within fits := within

theorem alternative (within : ctx.Within fits) : ctx.alternative.Within fits := within

theorem element (within : ctx.Within fits) : ctx.element.Within fits := within

theorem field {node : Node} (fit : fits node) (name : Value) :
    (ctx.field name node.notes).Within fits := .inr ⟨node, fit, rfl⟩

end Context.Within

namespace Node

/-! ## Steps of a visit -/

/-- Only a field can be added to a field set. -/
theorem Fields.add_eq_ok {fields next : Fields} {node : Node} {fragment : Members}
    (added : fields.add node fragment = .ok next) :
    ∃ name type required notes, node = key name type required notes ∧ name.isKey = true ∧
      next.properties = Members.insert name (.dict fragment) fields.properties ∧
      next.required =
        if required.truthy then addNew Value.equal fields.required name else fields.required := by
  simp only [Fields.add, bind_eq_ok, present_eq_ok] at added
  obtain ⟨name, named, added⟩ := added
  split at added
  · simp [bind, Except.bind] at added
  · rename_i hashable
    simp only [bind_eq_ok, present_eq_ok, pure_eq_ok] at added
    obtain ⟨flag, flagged, rfl⟩ := added
    cases node with
    | key own type required notes =>
        obtain rfl : own = name := Option.some.inj named
        obtain rfl : required = flag := Option.some.inj flagged
        exact ⟨own, type, required, notes, rfl, by simpa using hashable, rfl, rfl⟩
    | _ => cases flagged

/-- A constraint is found in the table under its name. -/
theorem mem_constraints {own : String} {c : Constraint} (listed : constraint? own = some c) :
    (own, c) ∈ constraints := by
  obtain ⟨before, after, whole, -⟩ := List.lookup_eq_some_iff.mp listed
  rw [whole]
  simp

/-- Predicates under their own names and renamed for lists read operands alike. -/
theorem constraint?_sizeRenaming (text : String) :
    (constraint? (sizeRenaming text)).map Constraint.reading =
      (constraint? text).map Constraint.reading := by
  by_cases least : text = "min_size?"
  · subst least; rfl
  · by_cases most : text = "max_size?"
    · subst most; rfl
    · simp [sizeRenaming, least, most]

/-- How a predicate reads its operand does not depend on what is on its left. -/
theorem lookupName_reading (leftType name : Value) :
    ((lookupName leftType name).bind constraint?).map Constraint.reading =
      (name.text?.bind constraint?).map Constraint.reading := by
  simp only [lookupName]
  split
  · cases name.text? with
    | none => rfl
    | some text => exact constraint?_sizeRenaming text
  · rfl

/-- A visit that succeeds is one of a node. -/
theorem isNode_of_visit {o : Options} {ctx : Context} {node : Node} {fragment : Members}
    (visited : visit o ctx node = .ok fragment) : node.isNode = true := by
  cases node with
  | lazy notes => simp [visit, bind_eq_ok] at visited
  | bare notes => simp [visit, bind_eq_ok] at visited
  | plain v => simp [visit, visitPlain, bind_eq_ok] at visited
  | _ => rfl

/-- The fragment of the field set of an object type; a null in its place stands for none. -/
def visitFieldSet (o : Options) (ctx : Context) : Node → Except CompileFault Members
  | plain .null => .ok (Fragment.ofKeywords [("type", .str "object")])
  | fields => visit o ctx.inner fields

theorem visitFieldSet_cases {o : Options} {ctx : Context} {fields : Node} {fragment : Members}
    (visited : visitFieldSet o ctx fields = .ok fragment) :
    (fields = plain .null ∧ fragment = Fragment.ofKeywords [("type", .str "object")]) ∨
      visit o ctx.inner fields = .ok fragment := by
  simp only [visitFieldSet] at visited
  split at visited
  · exact .inl ⟨rfl, (Except.ok.inj visited).symm⟩
  · exact .inr visited

theorem visit_mapping (o : Options) (ctx : Context) (fields : Node) (notes : Value) :
    visit o ctx (mapping fields notes) = (do
      o.allow ctx.depth
      let ref ← reference notes ctx.keyNotes
      if ref.isNull then (visitFieldSet o ctx fields).bind (finish notes)
      else finish notes (objectReference ctx.inArray ref)) := by
  cases fields with
  | plain v => cases v <;> rfl
  | _ => rfl

theorem visit_aggregate (o : Options) (ctx : Context) (name : Value) (fields : Node)
    (notes : Value) :
    visit o ctx (aggregate name fields notes) = (do
      o.allow ctx.depth
      let ref ← reference notes ctx.keyNotes
      if ref.isNull then (visitFieldSet o ctx fields).bind (finish notes)
      else finish notes (objectReference true ref)) := by
  cases fields with
  | plain v => cases v <;> rfl
  | _ => rfl

/-- Visits one alternative; a union without notes stands for its own alternatives. -/
def visitAlternative (o : Options) (ctx : Context) (found : List Members) :
    Node → Except CompileFault (List Members)
  | sum types notes =>
      if notes.truthy then (visit o ctx (sum types notes)).bind (gather found)
      else visitAlternatives o ctx found types
  | node => (visit o ctx node).bind (gather found)

theorem visitEach_cons (o : Options) (ctx : Context) (found : List Members) (node : Node)
    (rest : List Node) :
    visitEach o ctx found (node :: rest) =
      visitAlternative o ctx found node >>= fun next => visitEach o ctx next rest := by
  cases node with
  | sum types notes =>
      rw [visitEach, visitAlternative]
      split <;> rfl
  | _ => rfl

theorem visitEach_append (o : Options) (ctx : Context) (found : List Members)
    (nodes others : List Node) :
    visitEach o ctx found (nodes ++ others) =
      visitEach o ctx found nodes >>= fun next => visitEach o ctx next others := by
  induction nodes generalizing found with
  | nil => rfl
  | cons node rest ih => simp only [List.cons_append, visitEach_cons, ih, bind_assoc]

theorem visitFields_append (o : Options) (ctx : Context) (found : Fields)
    (nodes others : List Node) :
    visitFields o ctx found (nodes ++ others) =
      visitFields o ctx found nodes >>= fun next => visitFields o ctx next others := by
  induction nodes generalizing found with
  | nil => rfl
  | cons node rest ih => simp only [List.cons_append, visitFields, ih, bind_assoc]

theorem visitEach_cons_ok {o : Options} {ctx : Context} {node : Node} {rest : List Node}
    {found results : List Members}
    (visited : visitEach o ctx found (node :: rest) = .ok results) :
    ∃ next, visitEach o ctx next rest = .ok results ∧
      ((∃ types notes, node = sum types notes ∧ notes.truthy = false ∧
          visitAlternatives o ctx found types = .ok next) ∨
        ∃ fragment, visit o ctx node = .ok fragment ∧
          addNew? Fragment.same? found fragment = some next) := by
  rw [visitEach_cons] at visited
  obtain ⟨next, own, later⟩ := bind_eq_ok.mp visited
  have visitedItself (grown : (visit o ctx node).bind (gather found) = .ok next) :
      ∃ fragment, visit o ctx node = .ok fragment ∧
        addNew? Fragment.same? found fragment = some next := by
    obtain ⟨fragment, visited, gathered⟩ := bind_eq_ok.mp grown
    exact ⟨fragment, visited, decided_eq_ok.mp gathered⟩
  refine ⟨next, later, ?_⟩
  cases node with
  | sum types notes =>
      rw [visitAlternative] at own
      split at own
      · exact .inr (visitedItself own)
      · rename_i bare
        exact .inl ⟨types, notes, rfl, by simpa using bare, own⟩
  | _ => exact .inr (visitedItself own)

/-- Whether a reference is in force at a node: its own or that of the enclosing field. -/
def refers (notes keyNotes : Value) : Bool :=
  !((Members.get? "$ref" notes.members).getD
    ((Members.get? "$ref" keyNotes.members).getD .null)).isNull

/-- The reference that is read is none exactly where none is in force. -/
theorem refers_of_reference {notes keyNotes ref : Value}
    (referred : reference notes keyNotes = .ok ref) : refers notes keyNotes = !ref.isNull := by
  simp only [reference, bind_eq_ok, present_eq_ok] at referred
  obtain ⟨inherited, outer, own⟩ := referred
  cases keyNotes with
  | dict outerMembers =>
      obtain rfl := Option.some.inj outer
      cases notes with
      | dict members =>
          obtain rfl := Option.some.inj own
          rfl
      | _ => cases own
  | _ => cases outer

/-- A reference in force is a note of the node itself or of the enclosing field. -/
theorem reference_cases {notes keyNotes ref : Value}
    (referred : reference notes keyNotes = .ok ref) :
    noteOr? notes "$ref" .null = some ref ∨ noteOr? keyNotes "$ref" .null = some ref := by
  simp only [reference, bind_eq_ok, present_eq_ok] at referred
  obtain ⟨inherited, outer, own⟩ := referred
  cases notes with
  | dict members =>
      simp only [noteOr?, Option.some.injEq] at own ⊢
      cases found : Members.get? "$ref" members with
      | none =>
          simp only [found, Option.getD_none] at own
          exact .inr (own ▸ outer)
      | some v => exact .inl (by simpa [found] using own)
  | _ => cases own

/-! ## Visits -/

/-- What a property of fragments has to keep so that every visit keeps it. -/
structure Kept (o : Options) (fits : Node → Prop) (holds : Context → Members → Prop) :
    Prop where
  nominal : ∀ ctx primitive, holds ctx ((typeMembers? primitive).getD [])
  predicate : ∀ {ctx name operand notes fragment}, fits (predicate name operand notes) →
    predicateFragment o ctx.leftType name operand = .ok fragment → holds ctx fragment
  /-- An object type without a field set. -/
  object : ∀ ctx, holds ctx (Fragment.ofKeywords [("type", .str "object")])
  /-- The fragment of a wrapped type is handed on. -/
  wrapped : ∀ {ctx fragment}, holds ctx.inner fragment → holds ctx fragment
  /-- The fragment of a field's type is handed on. -/
  field : ∀ {ctx name type required notes fragment}, fits (key name type required notes) →
    holds (ctx.field name notes) fragment → holds ctx fragment
  joined : ∀ {ctx primitive base extra both}, holds ctx.inner base →
    holds (ctx.ruleFor primitive) extra → Fragment.merge? base extra = some both →
    holds ctx both
  sum : ∀ {ctx types notes results}, (∀ part ∈ (sum types notes).parts, fits part) →
    visitAlternatives o ctx.alternative [] types = .ok results →
    (∀ result ∈ results, holds ctx.alternative result) →
    holds ctx (sumFragment ctx.topLevel results)
  reference : ∀ {node ref} ctx inArray, fits node → noteOr? node.notes "$ref" .null = some ref →
    ref.isNull = false → holds ctx (objectReference inArray ref)
  array : ∀ {ctx member items fragment}, fits member → holds ctx.element items →
    arrayFragment items member.notes = .ok fragment → holds ctx fragment
  schema : ∀ {ctx keys notes fields}, (∀ part ∈ (schema keys notes).parts, fits part) →
    visitKeys o ctx.inner keys = .ok fields →
    (∀ property ∈ fields.properties, ∃ fragment, property.2 = .dict fragment ∧
      ∃ name type required notes, fits (key name type required notes) ∧
        holds (ctx.inner.field name notes) fragment) →
    holds ctx fields.fragment
  /-- The annotations of a node are laid over its fragment. -/
  noted : ∀ {ctx node fragment whole}, fits node → holds ctx fragment →
    overlay fragment node.notes = some whole → holds ctx whole

namespace Kept

variable {o : Options} {fits : Node → Prop} {holds : Context → Members → Prop}

/-- What is kept of the nodes that fit is kept of those that fit more strictly. -/
theorem weaken (kept : Kept o fits holds) {strict : Node → Prop}
    (stricter : ∀ {node}, strict node → fits node) : Kept o strict holds where
  nominal := kept.nominal
  predicate fit := kept.predicate (stricter fit)
  object := kept.object
  wrapped := kept.wrapped
  field fit := kept.field (stricter fit)
  joined := kept.joined
  sum fit := kept.sum fun part held => stricter (fit part held)
  reference ctx inArray fit := kept.reference ctx inArray (stricter fit)
  array fit := kept.array (stricter fit)
  schema fit visited each := by
    refine kept.schema (fun part held => stricter (fit part held)) visited fun property held => ?_
    obtain ⟨fragment, same, name, type, required, notes, own, inside⟩ := each property held
    exact ⟨fragment, same, name, type, required, notes, stricter own, inside⟩
  noted fit := kept.noted (stricter fit)

/-- The last step of every visit. -/
theorem finish (kept : Kept o fits holds) {ctx : Context} {node : Node} {fragment whole : Members}
    (fit : fits node) (held : holds ctx fragment)
    (finished : Node.finish node.notes fragment = .ok whole) : holds ctx whole :=
  kept.noted fit held (typed_eq_ok.mp finished)

/-- A visit of an object type that a reference stands for. -/
theorem referred (kept : Kept o fits holds) {ctx : Context} {node : Node} {ref : Value}
    (within : ctx.Within fits) (fit : fits node)
    (found : Node.reference node.notes ctx.keyNotes = .ok ref) (inForce : ref.isNull = false)
    (inArray : Bool) : holds ctx (objectReference inArray ref) := by
  rcases reference_cases found with own | outer
  · exact kept.reference ctx inArray fit own inForce
  · rcases within with none | ⟨key, keyFits, same⟩
    · rw [none] at outer
      obtain rfl : .null = ref := Option.some.inj outer
      cases inForce
    · exact kept.reference ctx inArray keyFits (same ▸ outer) inForce

/-- An object type has what is inside it, or the reference in force. -/
theorem unlessReferred (kept : Kept o fits holds) {ctx : Context} {node : Node} {ref : Value}
    {inside : Except CompileFault Members} {inArray : Bool} {whole : Members}
    (within : ctx.Within fits) (own : fits node)
    (found : Node.reference node.notes ctx.keyNotes = .ok ref)
    (below : inside = .ok whole → holds ctx whole)
    (visited : (if ref.isNull then inside
      else Node.finish node.notes (objectReference inArray ref)) = .ok whole) : holds ctx whole := by
  split at visited
  · exact below visited
  · rename_i inForce
    exact kept.finish own (kept.referred within own found (by simpa using inForce) inArray) visited

/-- An object type has the fragment of its field set, if it has one. -/
theorem fieldSet (kept : Kept o fits holds) {ctx : Context} {node fields : Node} {whole : Members}
    (own : fits node)
    (below : ∀ {inner}, Node.visit o ctx.inner fields = .ok inner → holds ctx.inner inner)
    (visited : (visitFieldSet o ctx fields).bind (Node.finish node.notes) = .ok whole) :
    holds ctx whole := by
  obtain ⟨inner, visited, finished⟩ := bind_eq_ok.mp visited
  refine kept.finish own ?_ finished
  rcases visitFieldSet_cases visited with ⟨-, rfl⟩ | visited
  · exact kept.object ctx
  · exact kept.wrapped (below visited)

mutual

/-- A property that is kept holds of the fragment that a visit gives. -/
theorem visit (kept : Kept o fits holds) : ∀ {node : Node} {ctx : Context} {fragment : Members},
    ctx.Within fits → (∀ part ∈ node.parts, fits part) → Node.visit o ctx node = .ok fragment →
      holds ctx fragment
  | .nominal primitive notes, ctx, fragment, within, fit, visited => by
      simp only [Node.visit, bind_eq_ok] at visited
      obtain ⟨-, -, finished⟩ := visited
      exact kept.finish (fit _ List.mem_cons_self) (kept.nominal ctx primitive) finished
  | .constructor type fn notes, ctx, fragment, within, fit, visited => by
      simp only [Node.visit, bind_eq_ok] at visited
      obtain ⟨-, -, inner, visited, finished⟩ := visited
      obtain ⟨own, below⟩ := List.forall_mem_cons.mp fit
      exact kept.finish own (kept.wrapped (visit kept within.inner below visited)) finished
  | .constrained type rule notes, ctx, fragment, within, fit, visited => by
      simp only [Node.visit, bind_eq_ok, decided_eq_ok] at visited
      obtain ⟨-, -, base, baseVisited, extra, extraVisited, both, joined, finished⟩ := visited
      obtain ⟨own, below⟩ := List.forall_mem_cons.mp fit
      obtain ⟨typeFits, ruleFits⟩ := List.forall_mem_append.mp below
      exact kept.finish own (kept.joined (visit kept within.inner typeFits baseVisited)
        (visit kept (within.ruleFor _) ruleFits extraVisited) joined) finished
  | .predicate name operand notes, ctx, fragment, within, fit, visited => by
      simp only [Node.visit, bind_eq_ok] at visited
      obtain ⟨-, -, inner, emitted, finished⟩ := visited
      have own := fit _ List.mem_cons_self
      exact kept.finish own (kept.predicate own emitted) finished
  | .sum types notes, ctx, fragment, within, fit, visited => by
      simp only [Node.visit, bind_eq_ok] at visited
      obtain ⟨-, -, visited⟩ := visited
      split at visited
      · simp [bind, Except.bind] at visited
      · obtain ⟨results, listed, finished⟩ := bind_eq_ok.mp visited
        obtain ⟨own, below⟩ := List.forall_mem_cons.mp fit
        have each := visitAlternatives kept within.alternative below (by simp) listed
        exact kept.finish own (kept.sum fit listed each) finished
  | .intersection left right notes, ctx, fragment, within, fit, visited => by
      simp only [Node.visit, bind_eq_ok, decided_eq_ok] at visited
      obtain ⟨-, -, base, baseVisited, extra, extraVisited, both, joined, finished⟩ := visited
      obtain ⟨own, below⟩ := List.forall_mem_cons.mp fit
      obtain ⟨leftFits, rightFits⟩ := List.forall_mem_append.mp below
      exact kept.finish own (kept.joined (visit kept within.inner leftFits baseVisited)
        (visit kept (within.ruleFor _) rightFits extraVisited) joined) finished
  | .mapping fields notes, ctx, fragment, within, fit, visited => by
      simp only [visit_mapping, bind_eq_ok] at visited
      obtain ⟨-, -, ref, found, visited⟩ := visited
      obtain ⟨own, below⟩ := List.forall_mem_cons.mp fit
      exact kept.unlessReferred within own found
        (kept.fieldSet own fun visited => visit kept within.inner below visited) visited
  | .aggregate name fields notes, ctx, fragment, within, fit, visited => by
      simp only [visit_aggregate, bind_eq_ok] at visited
      obtain ⟨-, -, ref, found, visited⟩ := visited
      obtain ⟨own, below⟩ := List.forall_mem_cons.mp fit
      exact kept.unlessReferred within own found
        (kept.fieldSet own fun visited => visit kept within.inner below visited) visited
  | .array member notes, ctx, fragment, within, fit, visited => by
      simp only [Node.visit, bind_eq_ok] at visited
      obtain ⟨-, -, items, visited, whole, built, finished⟩ := visited
      obtain ⟨own, below⟩ := List.forall_mem_cons.mp fit
      have memberFits := below member (mem_parts_self (isNode_of_visit visited))
      exact kept.finish own
        (kept.array memberFits (visit kept within.element below visited) built) finished
  | .schema keys notes, ctx, fragment, within, fit, visited => by
      simp only [Node.visit, bind_eq_ok] at visited
      obtain ⟨-, -, ref, found, visited⟩ := visited
      obtain ⟨own, below⟩ := List.forall_mem_cons.mp fit
      refine kept.unlessReferred within own found (fun inside => ?_) visited
      obtain ⟨fields, listed, finished⟩ := bind_eq_ok.mp inside
      have each := visitKeys kept below listed
      exact kept.finish own (kept.schema fit listed each) finished
  | .key name type required notes, ctx, fragment, within, fit, visited => by
      simp only [Node.visit, bind_eq_ok] at visited
      obtain ⟨-, -, inner, visited, finished⟩ := visited
      obtain ⟨own, below⟩ := List.forall_mem_cons.mp fit
      exact kept.finish own (kept.field own (visit kept (.field own name) below visited)) finished
  | .enum type values notes, ctx, fragment, within, fit, visited => by
      simp only [Node.visit, bind_eq_ok] at visited
      obtain ⟨-, -, inner, visited, finished⟩ := visited
      obtain ⟨own, below⟩ := List.forall_mem_cons.mp fit
      exact kept.finish own (kept.wrapped (visit kept within.inner below visited)) finished
  | .lazy notes, ctx, fragment, within, fit, visited
  | .bare notes, ctx, fragment, within, fit, visited
  | .plain v, ctx, fragment, within, fit, visited => by cases isNode_of_visit visited

/-- The same for the alternatives in a slot. -/
theorem visitAlternatives (kept : Kept o fits holds) : ∀ {types : Children} {ctx : Context}
    {found results : List Members}, ctx.Within fits → (∀ part ∈ partsOfSlot types, fits part) →
      (∀ result ∈ found, holds ctx result) →
      Node.visitAlternatives o ctx found types = .ok results →
      ∀ result ∈ results, holds ctx result
  | .nodes items, _, _, _, within, fit, held, visited => by
      rw [Node.visitAlternatives] at visited
      exact visitEach kept within fit held visited
  | .value v, _, _, _, _, _, held, visited => by
      simp only [Node.visitAlternatives, bind_eq_ok, pure_eq_ok] at visited
      obtain ⟨-, -, -, -, rfl⟩ := visited
      exact held

/-- The same for some alternatives. -/
theorem visitEach (kept : Kept o fits holds) : ∀ {nodes : List Node} {ctx : Context}
    {found results : List Members}, ctx.Within fits → (∀ part ∈ partsOfEach nodes, fits part) →
      (∀ result ∈ found, holds ctx result) → Node.visitEach o ctx found nodes = .ok results →
      ∀ result ∈ results, holds ctx result
  | [], _, _, _, _, _, held, visited => by
      obtain rfl := Except.ok.inj visited
      exact held
  | node :: rest, ctx, found, results, within, fit, held, visited => by
      obtain ⟨nodeFits, restFits⟩ := List.forall_mem_append.mp fit
      -- the alternatives of a union without notes are visited in its place
      have flattened : ∀ types notes next, node = .sum types notes →
          Node.visitAlternatives o ctx found types = .ok next →
          ∀ result ∈ next, holds ctx result := by
        cases node with
        | sum types notes =>
            rintro _ _ next ⟨⟩ flat
            exact visitAlternatives kept within (List.forall_mem_cons.mp nodeFits).2 held flat
        | _ => rintro _ _ _ ⟨⟩
      obtain ⟨next, later, ⟨types, notes, same, -, flat⟩ | ⟨fragment, single, added⟩⟩ :=
        visitEach_cons_ok visited
      · exact visitEach kept within restFits (flattened types notes next same flat) later
      · have own := visit kept within nodeFits single
        refine visitEach kept within restFits (fun result there => ?_) later
        rcases mem_addNew? added there with old | rfl
        · exact held result old
        · exact own

/-- The fields in a slot have fragments for which it holds inside the field. -/
theorem visitKeys (kept : Kept o fits holds) : ∀ {keys : Children} {ctx : Context}
    {fields : Fields}, (∀ part ∈ partsOfSlot keys, fits part) →
      Node.visitKeys o ctx keys = .ok fields →
      ∀ property ∈ fields.properties, ∃ fragment, property.2 = .dict fragment ∧
        ∃ name type required notes, fits (key name type required notes) ∧
          holds (ctx.field name notes) fragment
  | .nodes items, _, _, fit, visited => by
      rw [Node.visitKeys] at visited
      exact visitFields kept fit (by simp) visited
  | .value v, _, _, _, visited => by
      simp only [Node.visitKeys, bind_eq_ok, pure_eq_ok] at visited
      obtain ⟨-, -, -, -, rfl⟩ := visited
      simp

/-- The same for some fields. -/
theorem visitFields (kept : Kept o fits holds) : ∀ {nodes : List Node} {ctx : Context}
    {found fields : Fields}, (∀ part ∈ partsOfEach nodes, fits part) →
      (∀ property ∈ found.properties, ∃ fragment, property.2 = .dict fragment ∧
        ∃ name type required notes, fits (key name type required notes) ∧
          holds (ctx.field name notes) fragment) →
      Node.visitFields o ctx found nodes = .ok fields →
      ∀ property ∈ fields.properties, ∃ fragment, property.2 = .dict fragment ∧
        ∃ name type required notes, fits (key name type required notes) ∧
          holds (ctx.field name notes) fragment
  | [], _, _, _, _, held, visited => by
      obtain rfl := Except.ok.inj visited
      exact held
  | node :: rest, ctx, found, fields, fit, held, visited => by
      obtain ⟨nodeFits, restFits⟩ := List.forall_mem_append.mp fit
      simp only [Node.visitFields, bind_eq_ok] at visited
      obtain ⟨fragment, single, next, added, later⟩ := visited
      obtain ⟨name, type, required, notes, same, -, properties, -⟩ := Fields.add_eq_ok added
      -- the type of a field is visited inside it
      have inside : ∀ name type required notes, node = key name type required notes →
          fits node ∧ holds (ctx.field name notes) fragment := by
        cases node with
        | key name type required notes =>
            rintro _ _ _ _ ⟨⟩
            obtain ⟨own, below⟩ := List.forall_mem_cons.mp nodeFits
            simp only [Node.visit, bind_eq_ok] at single
            obtain ⟨-, -, inner, single, finished⟩ := single
            exact ⟨own, kept.finish own (visit kept (.field own name) below single) finished⟩
        | _ => rintro _ _ _ _ ⟨⟩
      refine visitFields kept restFits (fun property there => ?_) later
      rw [properties] at there
      rcases Members.mem_insert there with old | ⟨whole, -⟩
      · exact held property old
      · exact ⟨fragment, whole, name, type, required, notes, same ▸ inside _ _ _ _ same⟩

end

end Kept

end Node

end Draftsman
