/-
# Draftsman.Proofs.Sites -- where the nodes of a description are visited

A site is a node with the context in which it is visited.  One site leads to another where
the visit of the first visits the second (`Site.Leads`, one case for each such step): a
union leads to its alternatives, those of the unions without notes among them in place of
these (`Alternative`), and an object type that a reference stands for leads nowhere.

A statement about every node of a kind that is compiled is one about every site that the
root leads to.  What a step keeps, all steps keep:

* a visit that succeeds is made of visits that succeed (`Leads.visited`, `Reaches.visited`);
* the nodes below a site are nodes of the description (`Leads.parts`, `Reaches.parts`).

No visit is left out: the places that a visit comes to are those of the sites that it leads
to (`mem_places_iff`).
-/
import Draftsman.Proofs.FirstDefect
import Mathlib.Logic.Relation

namespace Draftsman

set_option autoImplicit false

namespace Node

/-! ## Alternatives -/

/-- What is visited as an alternative of a union: what stands in its slot, but for the
unions without notes, which stand for their own alternatives. -/
inductive Alternative : Children → Node → Prop where
  | single {items : List Node} {node : Node} (held : node ∈ items)
      (own : ∀ types notes, node = sum types notes → notes.truthy = true) :
      Alternative (.nodes items) node
  | nested {items : List Node} {types : Children} {notes : Value} {node : Node}
      (held : sum types notes ∈ items) (bare : notes.truthy = false)
      (inside : Alternative types node) : Alternative (.nodes items) node

/-- Alternatives stay alternatives when there are more. -/
theorem Alternative.cons {items : List Node} {first node : Node}
    (alternative : Alternative (.nodes items) node) : Alternative (.nodes (first :: items)) node := by
  cases alternative with
  | single held own => exact .single (List.mem_cons_of_mem _ held) own
  | nested held bare inside => exact .nested (List.mem_cons_of_mem _ held) bare inside

theorem visitEach_mem {o : Options} {ctx : Context} {nodes : List Node} {node : Node}
    (held : node ∈ nodes) {found results : List Members}
    (visited : visitEach o ctx found nodes = .ok results) :
    ∃ before after, visitAlternative o ctx before node = .ok after := by
  induction nodes generalizing found with
  | nil => cases held
  | cons first rest ih =>
      rw [visitEach_cons] at visited
      obtain ⟨next, own, later⟩ := bind_eq_ok.mp visited
      rcases List.mem_cons.mp held with rfl | held
      · exact ⟨found, next, own⟩
      · exact ih held later

/-- Each alternative of a union that is visited has a fragment. -/
theorem Alternative.visited {o : Options} {ctx : Context} {types : Children} {node : Node}
    (alternative : Alternative types node) {found results : List Members}
    (visited : visitAlternatives o ctx found types = .ok results) :
    ∃ fragment, visit o ctx node = .ok fragment := by
  induction alternative generalizing found results with
  | single held own =>
      rw [visitAlternatives] at visited
      obtain ⟨before, after, single⟩ := visitEach_mem held visited
      rename_i node
      cases node with
      | sum types notes =>
          rw [visitAlternative, if_pos (own types notes rfl)] at single
          obtain ⟨fragment, visited, -⟩ := bind_eq_ok.mp single
          exact ⟨fragment, visited⟩
      | _ =>
          obtain ⟨fragment, visited, -⟩ := bind_eq_ok.mp single
          exact ⟨fragment, visited⟩
  | nested held bare inside ih =>
      rw [visitAlternatives] at visited
      obtain ⟨before, after, flat⟩ := visitEach_mem held visited
      rw [visitAlternative, bare, if_neg Bool.false_ne_true] at flat
      exact ih flat

theorem Alternative.parts {types : Children} {node : Node} (alternative : Alternative types node) :
    ∀ part ∈ node.parts, part ∈ partsOfSlot types := by
  induction alternative with
  | single held own =>
      intro part below
      exact mem_partsOfEach.mpr ⟨_, held, below⟩
  | nested held bare inside ih =>
      intro part below
      exact mem_partsOfEach.mpr ⟨_, held, List.mem_cons_of_mem _ (ih part below)⟩

/-! ## Fields -/

/-- Each field of a field set that is visited has a fragment. -/
theorem visitFields_mem {o : Options} {ctx : Context} {nodes : List Node} {node : Node}
    (held : node ∈ nodes) {found fields : Fields}
    (visited : visitFields o ctx found nodes = .ok fields) :
    ∃ fragment, visit o ctx node = .ok fragment := by
  induction nodes generalizing found with
  | nil => cases held
  | cons first rest ih =>
      simp only [visitFields, bind_eq_ok] at visited
      obtain ⟨fragment, own, next, -, later⟩ := visited
      rcases List.mem_cons.mp held with rfl | held
      · exact ⟨fragment, own⟩
      · exact ih held later

/-- An object type without a reference in force visits its field set, if it has one. -/
theorem visitFieldSet_visited {o : Options} {ctx : Context} {fields : Node} {notes ref : Value}
    {whole : Members} {byReference : Except CompileFault Members} (some : fields ≠ plain .null)
    (inlined : refers notes ctx.keyNotes = false) (found : reference notes ctx.keyNotes = .ok ref)
    (visited : (if ref.isNull then (visitFieldSet o ctx fields).bind (finish notes)
      else byReference) = .ok whole) : ∃ fragment, visit o ctx.inner fields = .ok fragment := by
  have null : ref.isNull = true := by simpa [inlined] using refers_of_reference found
  rw [if_pos null] at visited
  obtain ⟨inside, visited, -⟩ := bind_eq_ok.mp visited
  rcases visitFieldSet_cases visited with ⟨none, -⟩ | visited
  · exact absurd none some
  · exact ⟨inside, visited⟩

end Node

/-! ## Sites -/

/-- A node where it is visited. -/
structure Site where
  ctx : Context
  node : Node

namespace Site

open Node

def visit (o : Options) (site : Site) : Except CompileFault Members := site.node.visit o site.ctx

/-- The visit of one site visits another. -/
inductive Leads : Site → Site → Prop where
  | constructor {ctx : Context} {type : Node} {fn notes : Value} :
      Leads ⟨ctx, .constructor type fn notes⟩ ⟨ctx.inner, type⟩
  | enum {ctx : Context} {type : Node} {values : Children} {notes : Value} :
      Leads ⟨ctx, .enum type values notes⟩ ⟨ctx.inner, type⟩
  | type {ctx : Context} {type rule : Node} {notes : Value} :
      Leads ⟨ctx, constrained type rule notes⟩ ⟨ctx.inner, type⟩
  | rule {ctx : Context} {type rule : Node} {notes : Value} :
      Leads ⟨ctx, constrained type rule notes⟩ ⟨ctx.ruleFor (concreteType type), rule⟩
  | left {ctx : Context} {left right : Node} {notes : Value} :
      Leads ⟨ctx, intersection left right notes⟩ ⟨ctx.inner, left⟩
  | right {ctx : Context} {left right : Node} {notes : Value} :
      Leads ⟨ctx, intersection left right notes⟩
        ⟨ctx.ruleFor (if (concreteType left).truthy then concreteType left else ctx.leftType), right⟩
  | alternative {ctx : Context} {types : Children} {notes : Value} {node : Node}
      (held : Alternative types node) : Leads ⟨ctx, sum types notes⟩ ⟨ctx.alternative, node⟩
  | mapping {ctx : Context} {fields : Node} {notes : Value} (some : fields ≠ plain .null)
      (inlined : refers notes ctx.keyNotes = false) :
      Leads ⟨ctx, .mapping fields notes⟩ ⟨ctx.inner, fields⟩
  | aggregate {ctx : Context} {name notes : Value} {fields : Node} (some : fields ≠ plain .null)
      (inlined : refers notes ctx.keyNotes = false) :
      Leads ⟨ctx, .aggregate name fields notes⟩ ⟨ctx.inner, fields⟩
  | element {ctx : Context} {member : Node} {notes : Value} :
      Leads ⟨ctx, array member notes⟩ ⟨ctx.element, member⟩
  | member {ctx : Context} {keys : List Node} {notes : Value} {node : Node} (held : node ∈ keys)
      (inlined : refers notes ctx.keyNotes = false) :
      Leads ⟨ctx, schema (.nodes keys) notes⟩ ⟨ctx.inner, node⟩
  | field {ctx : Context} {name required notes : Value} {type : Node} :
      Leads ⟨ctx, key name type required notes⟩ ⟨ctx.field name notes, type⟩

/-- A site visits another, one step after the other. -/
abbrev Reaches : Site → Site → Prop := Relation.ReflTransGen Leads

variable {here there : Site}

/-- A visit that succeeds visits with success. -/
theorem Leads.visited {o : Options} (step : Leads here there) {whole : Members}
    (visited : here.visit o = .ok whole) : ∃ fragment, there.visit o = .ok fragment := by
  cases step with
  | constructor | enum | field | element | type | left =>
      simp only [Site.visit, Node.visit, bind_eq_ok] at visited
      obtain ⟨-, -, fragment, own, -⟩ := visited
      exact ⟨fragment, own⟩
  | rule | right =>
      simp only [Site.visit, Node.visit, bind_eq_ok] at visited
      obtain ⟨-, -, -, -, fragment, own, -⟩ := visited
      exact ⟨fragment, own⟩
  | alternative held =>
      simp only [Site.visit, Node.visit, bind_eq_ok] at visited
      obtain ⟨-, -, visited⟩ := visited
      split at visited
      · simp [bind, Except.bind] at visited
      · obtain ⟨results, listed, -⟩ := bind_eq_ok.mp visited
        exact held.visited listed
  | mapping some inlined =>
      simp only [Site.visit, visit_mapping, bind_eq_ok] at visited
      obtain ⟨-, -, ref, found, visited⟩ := visited
      exact visitFieldSet_visited some inlined found visited
  | aggregate some inlined =>
      simp only [Site.visit, visit_aggregate, bind_eq_ok] at visited
      obtain ⟨-, -, ref, found, visited⟩ := visited
      exact visitFieldSet_visited some inlined found visited
  | member held inlined =>
      simp only [Site.visit, Node.visit, bind_eq_ok] at visited
      obtain ⟨-, -, ref, found, visited⟩ := visited
      have null : ref.isNull = true := by simpa [inlined] using refers_of_reference found
      rw [if_pos null] at visited
      obtain ⟨fields, listed, -⟩ := bind_eq_ok.mp visited
      rw [visitKeys] at listed
      exact visitFields_mem held listed

/-- A visit that succeeds is made of visits that succeed. -/
theorem Reaches.visited {o : Options} (reached : Reaches here there) {whole : Members}
    (visited : here.visit o = .ok whole) : ∃ fragment, there.visit o = .ok fragment := by
  induction reached with
  | refl => exact ⟨whole, visited⟩
  | tail _ step ih =>
      obtain ⟨fragment, own⟩ := ih
      exact step.visited own

/-- The nodes below a site are below the sites that lead to it. -/
theorem Leads.parts (step : Leads here there) :
    ∀ part ∈ there.node.parts, part ∈ here.node.parts := by
  intro part below
  cases step with
  | constructor | enum | field | element | mapping | aggregate =>
      exact List.mem_cons_of_mem _ below
  | type | left => exact List.mem_cons_of_mem _ (List.mem_append_left _ below)
  | rule | right => exact List.mem_cons_of_mem _ (List.mem_append_right _ below)
  | alternative held => exact List.mem_cons_of_mem _ (held.parts part below)
  | member held =>
      exact List.mem_cons_of_mem _ (mem_partsOfEach.mpr ⟨_, held, below⟩)

theorem Reaches.parts (reached : Reaches here there) :
    ∀ part ∈ there.node.parts, part ∈ here.node.parts := by
  induction reached with
  | refl => exact fun _ held => held
  | tail _ step ih => exact fun part below => ih part (step.parts part below)

/-! ## Sites and places -/

def place (site : Site) : Place := ⟨site.ctx.depth, site.node⟩

end Site

namespace Node

open Site

theorem mem_places_self (depth : Nat) (keyNotes : Value) (node : Node) :
    ⟨depth, node⟩ ∈ places depth keyNotes node := by
  cases node with
  | mapping fields notes => rw [places_mapping]; exact List.mem_cons_self
  | aggregate name fields notes => rw [places_aggregate]; exact List.mem_cons_self
  | _ => exact List.mem_cons_self

theorem places_of_fieldSet {fields : Node} (some : fields ≠ plain .null) (depth : Nat)
    (keyNotes : Value) : placesOfFieldSet depth keyNotes fields = places depth keyNotes fields := by
  cases fields with
  | plain v =>
      cases v with
      | null => exact absurd rfl some
      | _ => rfl
  | _ => rfl

theorem mem_placesOfEach {depth : Nat} {keyNotes : Value} {nodes : List Node} {place : Place} :
    place ∈ placesOfEach depth keyNotes nodes ↔
      ∃ node ∈ nodes, place ∈ placesOfAlternative depth keyNotes node := by
  induction nodes with
  | nil => simp [placesOfEach]
  | cons first rest ih => simp [placesOfEach_cons, ih]

theorem mem_placesOfKeys {depth : Nat} {keyNotes : Value} {nodes : List Node} {place : Place} :
    place ∈ placesOfKeys depth keyNotes nodes ↔
      ∃ node ∈ nodes, place ∈ places depth keyNotes node := by
  induction nodes with
  | nil => simp [placesOfKeys]
  | cons first rest ih => simp [placesOfKeys, ih]

/-- A node that is visited as an alternative is visited as itself. -/
theorem placesOfAlternative_of_own {node : Node}
    (own : ∀ types notes, node = sum types notes → notes.truthy = true) (depth : Nat)
    (keyNotes : Value) :
    placesOfAlternative depth keyNotes node = places depth keyNotes node := by
  cases node with
  | sum types notes => rw [placesOfAlternative, if_pos (own types notes rfl)]
  | _ => rfl

theorem Alternative.places {types : Children} {node : Node} (alternative : Alternative types node)
    {depth : Nat} {keyNotes : Value} :
    ∀ place ∈ places depth keyNotes node, place ∈ placesOfSlot depth keyNotes types := by
  induction alternative with
  | single held own =>
      intro place below
      rw [placesOfSlot, mem_placesOfEach]
      exact ⟨_, held, placesOfAlternative_of_own own depth keyNotes ▸ below⟩
  | nested held bare inside ih =>
      intro place below
      rw [placesOfSlot, mem_placesOfEach]
      refine ⟨_, held, ?_⟩
      rw [placesOfAlternative, bare, if_neg Bool.false_ne_true]
      exact ih place below

end Node

namespace Site

open Node

variable {here there : Site}

/-- The places below a site are places below the sites that lead to it. -/
theorem Leads.places (step : Leads here there) :
    ∀ place ∈ places there.ctx.depth there.ctx.keyNotes there.node,
      place ∈ places here.ctx.depth here.ctx.keyNotes here.node := by
  intro place below
  cases step with
  | constructor | enum | element | field => exact List.mem_cons_of_mem _ below
  | type | left => exact List.mem_cons_of_mem _ (List.mem_append_left _ below)
  | rule | right => exact List.mem_cons_of_mem _ (List.mem_append_right _ below)
  | alternative held => exact List.mem_cons_of_mem _ (held.places place below)
  | mapping some inlined =>
      rw [places_mapping, inlined, if_neg Bool.false_ne_true, places_of_fieldSet some]
      exact List.mem_cons_of_mem _ below
  | aggregate some inlined =>
      rw [places_aggregate, inlined, if_neg Bool.false_ne_true, places_of_fieldSet some]
      exact List.mem_cons_of_mem _ below
  | member held inlined =>
      rw [Node.places, inlined, if_neg Bool.false_ne_true, placesOfFields]
      exact List.mem_cons_of_mem _ (mem_placesOfKeys.mpr ⟨_, held, below⟩)

theorem Reaches.place (reached : Reaches here there) :
    there.place ∈ places here.ctx.depth here.ctx.keyNotes here.node := by
  have all : ∀ place ∈ places there.ctx.depth there.ctx.keyNotes there.node,
      place ∈ places here.ctx.depth here.ctx.keyNotes here.node := by
    induction reached with
    | refl => exact fun _ held => held
    | tail _ step ih => exact fun place held => ih place (step.places place held)
  exact all _ (mem_places_self _ _ _)

end Site

namespace Node

open Site

/-- A place is visited from a site: it is the place of a site that this one reaches. -/
def VisitedFrom (here : Site) (place : Place) : Prop := ∃ there, Reaches here there ∧ there.place = place

theorem VisitedFrom.step {here next : Site} {place : Place} (step : Leads here next)
    (visited : VisitedFrom next place) : VisitedFrom here place := by
  obtain ⟨there, reached, same⟩ := visited
  exact ⟨there, .head step reached, same⟩

/-- The places of an object type are its own and those of its field set. -/
theorem visitedFrom_of_fieldSet {here : Site} {fields : Node} {notes : Value} {place : Place}
    (leads : refers notes here.ctx.keyNotes = false → fields ≠ plain .null →
      Leads here ⟨here.ctx.inner, fields⟩)
    (below : ∀ place ∈ places (here.ctx.depth + 1) here.ctx.keyNotes fields,
      VisitedFrom ⟨here.ctx.inner, fields⟩ place)
    (held : place ∈ here.place :: if refers notes here.ctx.keyNotes then []
      else placesOfFieldSet (here.ctx.depth + 1) here.ctx.keyNotes fields) :
    VisitedFrom here place := by
  rcases List.mem_cons.mp held with rfl | held
  · exact ⟨here, .refl, rfl⟩
  · split at held
    · cases held
    · rename_i inlined
      by_cases none : fields = plain .null
      · rw [none] at held
        cases held
      · rw [places_of_fieldSet none] at held
        exact .step (leads (by simpa using inlined) none) (below place held)

mutual

/-- Every place of a formed description is the place of a site. -/
theorem visitedFrom_of_places : ∀ {node : Node} {ctx : Context} {place : Place},
    (∀ part ∈ node.parts, part.formed = true) → place ∈ places ctx.depth ctx.keyNotes node →
      VisitedFrom ⟨ctx, node⟩ place
  | .nominal _ _, ctx, place, formed, held | .predicate _ _ _, ctx, place, formed, held
  | .lazy _, ctx, place, formed, held | .bare _, ctx, place, formed, held
  | .plain _, ctx, place, formed, held => by
      obtain rfl := List.mem_singleton.mp held
      exact ⟨_, .refl, rfl⟩
  | .constructor type fn notes, ctx, place, formed, held => by
      obtain ⟨-, below⟩ := List.forall_mem_cons.mp formed
      rcases List.mem_cons.mp held with rfl | held
      · exact ⟨_, .refl, rfl⟩
      · have inside : place ∈ places ctx.inner.depth ctx.inner.keyNotes type := held
        exact .step .constructor (visitedFrom_of_places below inside)
  | .enum type values notes, ctx, place, formed, held => by
      obtain ⟨-, below⟩ := List.forall_mem_cons.mp formed
      rcases List.mem_cons.mp held with rfl | held
      · exact ⟨_, .refl, rfl⟩
      · have inside : place ∈ places ctx.inner.depth ctx.inner.keyNotes type := held
        exact .step .enum (visitedFrom_of_places below inside)
  | .constrained type rule notes, ctx, place, formed, held => by
      obtain ⟨-, below⟩ := List.forall_mem_cons.mp formed
      obtain ⟨typeFormed, ruleFormed⟩ := List.forall_mem_append.mp below
      rcases List.mem_cons.mp held with rfl | held
      · exact ⟨_, .refl, rfl⟩
      · rcases List.mem_append.mp held with held | held
        · have inside : place ∈ places ctx.inner.depth ctx.inner.keyNotes type := held
          exact .step .type (visitedFrom_of_places typeFormed inside)
        · have inside : place ∈ places (ctx.ruleFor (concreteType type)).depth
              (ctx.ruleFor (concreteType type)).keyNotes rule := held
          exact .step .rule (visitedFrom_of_places ruleFormed inside)
  | .intersection left right notes, ctx, place, formed, held => by
      obtain ⟨-, below⟩ := List.forall_mem_cons.mp formed
      obtain ⟨leftFormed, rightFormed⟩ := List.forall_mem_append.mp below
      rcases List.mem_cons.mp held with rfl | held
      · exact ⟨_, .refl, rfl⟩
      · rcases List.mem_append.mp held with held | held
        · have inside : place ∈ places ctx.inner.depth ctx.inner.keyNotes left := held
          exact .step .left (visitedFrom_of_places leftFormed inside)
        · have step : Leads ⟨ctx, .intersection left right notes⟩ _ := .right
          have inside : place ∈ places (ctx.depth + 1) ctx.keyNotes right := held
          exact .step step (visitedFrom_of_places rightFormed inside)
  | .sum (.nodes items) notes, ctx, place, formed, held => by
      obtain ⟨-, below⟩ := List.forall_mem_cons.mp formed
      rcases List.mem_cons.mp held with rfl | held
      · exact ⟨_, .refl, rfl⟩
      · have inside : place ∈ placesOfEach ctx.alternative.depth ctx.alternative.keyNotes items :=
          held
        obtain ⟨node, alternative, visited⟩ := visitedFrom_of_each below inside
        exact .step (.alternative alternative) visited
  | .mapping fields notes, ctx, place, formed, held => by
      obtain ⟨-, below⟩ := List.forall_mem_cons.mp formed
      rw [places_mapping] at held
      refine visitedFrom_of_fieldSet (fun inlined some => .mapping some inlined)
        (fun place held => ?_) held
      have inside : place ∈ places ctx.inner.depth ctx.inner.keyNotes fields := held
      exact visitedFrom_of_places below inside
  | .aggregate name fields notes, ctx, place, formed, held => by
      obtain ⟨-, below⟩ := List.forall_mem_cons.mp formed
      rw [places_aggregate] at held
      refine visitedFrom_of_fieldSet (fun inlined some => .aggregate some inlined)
        (fun place held => ?_) held
      have inside : place ∈ places ctx.inner.depth ctx.inner.keyNotes fields := held
      exact visitedFrom_of_places below inside
  | .array member notes, ctx, place, formed, held => by
      obtain ⟨-, below⟩ := List.forall_mem_cons.mp formed
      rcases List.mem_cons.mp held with rfl | held
      · exact ⟨_, .refl, rfl⟩
      · have inside : place ∈ places ctx.element.depth ctx.element.keyNotes member := held
        exact .step .element (visitedFrom_of_places below inside)
  | .schema (.nodes keys) notes, ctx, place, formed, held => by
      obtain ⟨-, below⟩ := List.forall_mem_cons.mp formed
      rcases List.mem_cons.mp held with rfl | held
      · exact ⟨_, .refl, rfl⟩
      · split at held
        · cases held
        · rename_i inlined
          have inside : place ∈ placesOfKeys ctx.inner.depth ctx.inner.keyNotes keys := held
          obtain ⟨node, there, visited⟩ := visitedFrom_of_keys below inside
          exact .step (.member there (by simpa using inlined)) visited
  | .key name type required notes, ctx, place, formed, held => by
      obtain ⟨-, below⟩ := List.forall_mem_cons.mp formed
      rcases List.mem_cons.mp held with rfl | held
      · exact ⟨_, .refl, rfl⟩
      · have inside : place ∈ places (ctx.field name notes).depth (ctx.field name notes).keyNotes
            type := held
        exact .step .field (visitedFrom_of_places below inside)
  | .sum (.value _) notes, _, _, formed, _ | .schema (.value _) notes, _, _, formed, _ => by
      have own := formed _ List.mem_cons_self
      cases notes <;> cases own

/-- Every place of some alternatives is the place of a site below one of them. -/
theorem visitedFrom_of_each : ∀ {nodes : List Node} {ctx : Context} {place : Place},
    (∀ part ∈ partsOfEach nodes, part.formed = true) →
      place ∈ placesOfEach ctx.depth ctx.keyNotes nodes →
      ∃ node, Alternative (.nodes nodes) node ∧ VisitedFrom ⟨ctx, node⟩ place
  | [], _, _, _, held => by cases held
  | node :: rest, ctx, place, formed, held => by
      obtain ⟨nodeFormed, restFormed⟩ := List.forall_mem_append.mp formed
      rw [placesOfEach_cons] at held
      rcases List.mem_append.mp held with held | held
      · have own (inside : place ∈ places ctx.depth ctx.keyNotes node) :
            VisitedFrom ⟨ctx, node⟩ place := visitedFrom_of_places nodeFormed inside
        cases node with
        | sum types notes =>
            rw [placesOfAlternative] at held
            cases counts : notes.truthy with
            | true =>
                rw [counts, if_pos rfl] at held
                refine ⟨_, .single List.mem_cons_self fun types' notes' same => ?_, own held⟩
                cases same
                exact counts
            | false =>
                rw [counts, if_neg Bool.false_ne_true] at held
                obtain ⟨formedSum, below⟩ := List.forall_mem_cons.mp nodeFormed
                cases types with
                | nodes items =>
                    obtain ⟨node, alternative, visited⟩ := visitedFrom_of_each below held
                    exact ⟨node, .nested List.mem_cons_self counts alternative, visited⟩
                | value v => cases notes <;> cases formedSum
        | _ => exact ⟨_, .single List.mem_cons_self (by simp), own held⟩
      · obtain ⟨node, alternative, visited⟩ := visitedFrom_of_each restFormed held
        exact ⟨node, alternative.cons, visited⟩

/-- Every place of some fields is the place of a site below one of them. -/
theorem visitedFrom_of_keys : ∀ {nodes : List Node} {ctx : Context} {place : Place},
    (∀ part ∈ partsOfEach nodes, part.formed = true) →
      place ∈ placesOfKeys ctx.depth ctx.keyNotes nodes →
      ∃ node ∈ nodes, VisitedFrom ⟨ctx, node⟩ place
  | [], _, _, _, held => by cases held
  | node :: rest, ctx, place, formed, held => by
      obtain ⟨nodeFormed, restFormed⟩ := List.forall_mem_append.mp formed
      rcases List.mem_append.mp held with held | held
      · exact ⟨node, List.mem_cons_self, visitedFrom_of_places nodeFormed held⟩
      · obtain ⟨other, there, visited⟩ := visitedFrom_of_keys restFormed held
        exact ⟨other, List.mem_cons_of_mem _ there, visited⟩

end

/-- The places that a visit of a formed description comes to are those of the sites that it
reaches. -/
theorem mem_places_iff {node : Node} (formed : ∀ part ∈ node.parts, part.formed = true)
    (ctx : Context) (place : Place) :
    place ∈ places ctx.depth ctx.keyNotes node ↔
      ∃ there, Reaches ⟨ctx, node⟩ there ∧ there.place = place := by
  constructor
  · exact visitedFrom_of_places formed
  · rintro ⟨there, reached, rfl⟩
    exact Reaches.place reached

end Node

end Draftsman
