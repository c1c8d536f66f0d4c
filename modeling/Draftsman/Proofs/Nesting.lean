/-
# Draftsman.Proofs.Nesting -- how deep a description may nest

A node stands in a slot of another (`Node.Child`), and some number of slots below the root
(`Node.Below`).  A visit goes one step deeper for each of them, but not into the unions
without notes among the alternatives of a union, which are taken over by that union
(`takenOver`): of these there may be any number, at no depth of their own (`compile_nest`).

* `Below.reached`: in a description without references every node below the root is visited,
  or the union that takes it over is, at the depth that its slots count;
* `compile_nesting`: such a description has no document if one of its nodes lies deeper than
  the limit, not counting the unions that are taken over.

A fault that comes before the limit is reached has nothing to do with it: every wider limit
leaves it as it is.
-/
import Draftsman.Proofs.Ceiling
import Draftsman.Proofs.Sites

namespace Draftsman

set_option autoImplicit false

namespace Node

/-! ## Slots -/

/-- A node stands in a slot of another.  A null in the place of a field set is none, and the
values of an enumeration are kept for reference. -/
inductive Child : Node → Node → Prop where
  | constructor {type : Node} {fn notes : Value} : Child (.constructor type fn notes) type
  | enum {type : Node} {values : Children} {notes : Value} : Child (.enum type values notes) type
  | type {type rule : Node} {notes : Value} : Child (constrained type rule notes) type
  | rule {type rule : Node} {notes : Value} : Child (constrained type rule notes) rule
  | left {left right : Node} {notes : Value} : Child (intersection left right notes) left
  | right {left right : Node} {notes : Value} : Child (intersection left right notes) right
  | alternative {types : List Node} {notes : Value} {node : Node} (held : node ∈ types) :
      Child (sum (.nodes types) notes) node
  | mapping {fields : Node} {notes : Value} (some : fields ≠ plain .null) :
      Child (.mapping fields notes) fields
  | aggregate {name notes : Value} {fields : Node} (some : fields ≠ plain .null) :
      Child (.aggregate name fields notes) fields
  | element {member : Node} {notes : Value} : Child (array member notes) member
  | member {keys : List Node} {notes : Value} {node : Node} (held : node ∈ keys) :
      Child (schema (.nodes keys) notes) node
  | field {name required notes : Value} {type : Node} : Child (key name type required notes) type

/-- Whether a union takes over what stands in its slot: a union without notes. -/
def takenOver : Node → Node → Bool
  | sum _ _, sum _ notes => !notes.truthy
  | _, _ => false

/-- A node lies some slots below another, of which some hold unions that are taken over. -/
inductive Below : Node → Nat → Nat → Node → Prop where
  | refl (node : Node) : Below node 0 0 node
  | step {node child there : Node} {slots flat : Nat} (held : Child node child)
      (below : Below child slots flat there) :
      Below node (slots + 1) (flat + (takenOver node child).toNat) there

/-- The notes of a node name no reference. -/
def Unreferred (node : Node) : Prop := Members.get? "$ref" node.notes.members = none

variable {node child there : Node} {ctx : Context}

theorem Child.own_part (held : Child node child) : node ∈ node.parts := by
  cases held <;> exact List.mem_cons_self

theorem Child.parts (held : Child node child) : ∀ part ∈ child.parts, part ∈ node.parts := by
  intro part below
  cases held with
  | constructor | enum | field | element | mapping | aggregate => exact List.mem_cons_of_mem _ below
  | type | left => exact List.mem_cons_of_mem _ (List.mem_append_left _ below)
  | rule | right => exact List.mem_cons_of_mem _ (List.mem_append_right _ below)
  | alternative held | member held =>
      exact List.mem_cons_of_mem _ (mem_partsOfEach.mpr ⟨_, held, below⟩)

/-- No reference is in force where none is named. -/
theorem refers_of_unreferred (unreferred : node.Unreferred) (within : ctx.Within Unreferred) :
    refers node.notes ctx.keyNotes = false := by
  have outer : Members.get? "$ref" ctx.keyNotes.members = none := by
    rcases within with none | ⟨key, own, same⟩
    · rw [none]
      rfl
    · exact same ▸ own
  rw [refers, unreferred, outer]
  rfl

end Node

/-! ## Steps to deeper sites -/

namespace Site

open Node

variable {here there : Site}

theorem Leads.depth (step : Leads here there) : there.ctx.depth = here.ctx.depth + 1 := by
  cases step <;> rfl

theorem Leads.within {fits : Node → Prop} (step : Leads here there) (fit : fits here.node)
    (within : here.ctx.Within fits) : there.ctx.Within fits := by
  cases step with
  | field => exact .field fit _
  | _ => exact within

/-- A visit begins with the depth. -/
theorem allow_of_visit {o : Options} {site : Site} {fragment : Members}
    (visited : site.visit o = .ok fragment) : o.allow site.ctx.depth = .ok () := by
  obtain ⟨ctx, node⟩ := site
  cases node with
  | mapping | aggregate =>
      simp only [Site.visit, visit_mapping, visit_aggregate, bind_eq_ok] at visited
      obtain ⟨⟨⟩, allowed, -⟩ := visited
      exact allowed
  | plain =>
      simp only [Site.visit, Node.visit, visitPlain, bind_eq_ok] at visited
      obtain ⟨⟨⟩, allowed, -⟩ := visited
      exact allowed
  | _ =>
      simp only [Site.visit, Node.visit, bind_eq_ok] at visited
      obtain ⟨⟨⟩, allowed, -⟩ := visited
      exact allowed

theorem depth_le_of_visit {o : Options} {limit : Int} {site : Site} {fragment : Members}
    (visited : site.visit (o.upTo limit) = .ok fragment) : (site.ctx.depth : Int) ≤ limit := by
  have own : fault? ((o.upTo limit).allow site.ctx.depth) = _ :=
    Options.allow_int rfl site.ctx.depth
  rw [allow_of_visit visited, fault?_ok] at own
  by_contra beyond
  rw [if_pos (by omega)] at own
  cases own

/-- What is below a union that is taken over is visited from the union that takes it over. -/
theorem Reaches.of_takenOver {ctx : Context} {items : List Node} {types : Children}
    {notes bare : Value} (held : sum types bare ∈ items) (flat : bare.truthy = false)
    (reached : Reaches ⟨ctx, sum types bare⟩ there) :
    there = ⟨ctx, sum types bare⟩ ∨ Reaches ⟨ctx, sum (.nodes items) notes⟩ there := by
  rcases Relation.ReflTransGen.cases_head reached with same | ⟨next, step, later⟩
  · exact .inl same.symm
  · cases step with
    | alternative inside => exact .inr (.head (.alternative (.nested held flat inside)) later)

end Site

namespace Node

open Site

variable {node child there : Node} {ctx : Context}

/-- A node leads to what stands in its slots, unless that is taken over. -/
theorem Child.leads (held : Child node child) (own : takenOver node child = false)
    (unreferred : node.Unreferred) (within : ctx.Within Unreferred) :
    ∃ inside, Leads ⟨ctx, node⟩ ⟨inside, child⟩ := by
  have inlined := refers_of_unreferred unreferred within
  cases held with
  | constructor => exact ⟨_, .constructor⟩
  | enum => exact ⟨_, .enum⟩
  | type => exact ⟨_, .type⟩
  | rule => exact ⟨_, .rule⟩
  | left => exact ⟨_, .left⟩
  | right => exact ⟨_, .right⟩
  | alternative held =>
      refine ⟨_, .alternative (.single held ?_)⟩
      rintro types notes rfl
      simpa [takenOver] using own
  | mapping some => exact ⟨_, .mapping some inlined⟩
  | aggregate some => exact ⟨_, .aggregate some inlined⟩
  | element => exact ⟨_, .element⟩
  | member held => exact ⟨_, .member held inlined⟩
  | field => exact ⟨_, .field⟩

/-- Below a node without references there is a site as deep as the slots count, but for those
of the unions that are taken over. -/
theorem Below.reached {slots flat : Nat} (below : Below node slots flat there) :
    ∀ {ctx : Context}, ctx.Within Unreferred → (∀ part ∈ node.parts, part.Unreferred) →
      ∃ site, Reaches ⟨ctx, node⟩ site ∧ ctx.depth + slots ≤ site.ctx.depth + flat := by
  induction below with
  | refl node =>
      intro ctx within unreferred
      exact ⟨_, .refl, Nat.le_refl _⟩
  | @step node child there slots flat held below ih =>
      intro ctx within unreferred
      have own : node.Unreferred := unreferred _ held.own_part
      have inside : ∀ part ∈ child.parts, part.Unreferred :=
        fun part there => unreferred part (held.parts part there)
      cases counts : takenOver node child with
      | false =>
          obtain ⟨inner, leads⟩ := held.leads counts own within
          have deeper : inner.depth = ctx.depth + 1 := leads.depth
          have innerWithin : inner.Within Unreferred := leads.within own within
          obtain ⟨site, reached, deep⟩ := ih innerWithin inside
          refine ⟨site, .head leads reached, ?_⟩
          rw [Bool.toNat_false]
          omega
      | true =>
          -- the union in the slot is visited at the depth of the one that takes it over
          obtain ⟨site, reached, deep⟩ := ih within inside
          rw [Bool.toNat_true]
          cases held with
          | alternative held =>
              cases child with
              | sum types bare =>
                  have flat : bare.truthy = false := by simpa [takenOver] using counts
                  rcases Reaches.of_takenOver held flat reached with rfl | reached
                  · refine ⟨_, .refl, ?_⟩
                    change ctx.depth + slots ≤ ctx.depth + _ at deep
                    change ctx.depth + (slots + 1) ≤ ctx.depth + _
                    omega
                  · exact ⟨site, reached, by omega⟩
              | _ => cases counts
          | _ => cases counts

/-! ## Compilations -/

/-- A description without references has no document if a node of it lies deeper than the
limit, not counting the unions that are taken over: it fails at the first depth beyond the
limit, or before for something that no limit changes. -/
theorem compile_nesting {o : Options} {limit : Int} {slots flat : Nat}
    (unreferred : ∀ part ∈ node.parts, part.Unreferred) (below : Below node slots flat there)
    (beyond : limit + flat < slots) :
    ∃ fault, node.compile (o.upTo limit) = .error fault ∧
      (fault = .beyond limit ∨
        ∀ wider, limit ≤ wider → node.compile (o.upTo wider) = .error fault) := by
  cases compiled : node.compile (o.upTo limit) with
  | ok document =>
      obtain ⟨fragment, visited, -⟩ := bind_eq_ok.mp compiled
      obtain ⟨site, reached, deep⟩ := below.reached .root unreferred
      obtain ⟨inside, own⟩ := Reaches.visited reached visited
      have within := depth_le_of_visit own
      have start : Context.root.depth = 0 := rfl
      omega
  | error fault =>
      refine ⟨fault, rfl, ?_⟩
      by_cases first : fault = .beyond limit
      · exact .inl first
      · refine .inr fun wider room => ?_
        have eased := compile_eased o node room
        generalize node.compile (o.upTo wider) = roomy at eased
        rw [compiled] at eased
        cases eased with
        | stopped => exact absurd rfl first
        | same => rfl

def tableNode : Node :=
  sum (.nodes [
    sum (.nodes [
      array (array (nominal (.primitive .string) (.dict [])) (.dict [])) (.dict []),
      array (nominal (.primitive .float) (.dict [])) (.dict [])]) (.dict []),
    nominal (.primitive .integer) (.dict [])]) (.dict [])

theorem tableNode_below :
    Below tableNode 4 1 (nominal (.primitive .string) (.dict [])) :=
  .step (.alternative List.mem_cons_self) (.step (.alternative List.mem_cons_self)
    (.step .element (.step .element (.refl _))))

theorem compile_nesting_table :
    (∀ part ∈ tableNode.parts, part.Unreferred) ∧ (2 : Int) + (1 : Nat) < (4 : Nat) ∧
      ∃ fault, tableNode.compile (Options.upTo {} 2) = .error fault ∧
        (fault = .beyond 2 ∨
          ∀ wider, 2 ≤ wider → tableNode.compile (Options.upTo {} wider) = .error fault) := by
  have unreferred : ∀ part ∈ tableNode.parts, part.Unreferred := by
    simp [tableNode, parts, partsOfSlot, partsOfEach, Unreferred, notes, Value.members,
      Members.get?, Members.lookup]
  exact ⟨unreferred, by decide, compile_nesting unreferred tableNode_below (by decide)⟩

/-! ## Unions that are taken over -/

/-- A union around one without notes is that one. -/
theorem visit_takenOver (o : Options) (ctx : Context) (types : Children) (notes : Value)
    {bare : Value} (flat : bare.truthy = false) :
    visit o ctx (sum (.nodes [sum types bare]) notes) = visit o ctx (sum types notes) := by
  have same (found : List Members) :
      visitAlternatives o ctx.alternative found (.nodes [sum types bare]) =
        visitAlternatives o ctx.alternative found types := by
    rw [visitAlternatives, visitEach_cons, visitAlternative, flat, if_neg Bool.false_ne_true]
    cases visitAlternatives o ctx.alternative found types <;> rfl
  have all : enumerable (.nodes [sum types bare]) = enumerable types := by
    simp [enumerable, allEnumerable, flat]
  rw [visit, visit, all]
  simp only [same]

/-- A node within unions without notes, one within the other. -/
def nest (node : Node) : Nat → Node
  | 0 => sum (.nodes [node]) (.dict [])
  | n + 1 => sum (.nodes [nest node n]) (.dict [])

theorem visit_nest (o : Options) (ctx : Context) (node : Node) (n : Nat) :
    visit o ctx (nest node n) = visit o ctx (nest node 0) := by
  induction n with
  | zero => rfl
  | succ n ih =>
      rw [← ih]
      cases n <;> exact visit_takenOver o ctx _ _ rfl

theorem below_nest (node : Node) (n : Nat) : Below (nest node n) n n (nest node 0) := by
  induction n with
  | zero => exact .refl _
  | succ n ih =>
      have outer {notes : Value} : Below (sum (.nodes [nest node n]) notes) (n + 1) _ _ :=
        .step (.alternative List.mem_cons_self) ih
      cases n <;> exact outer

/-- No limit counts the unions that are taken over: any number of them, one within the other,
has the outcome of the innermost one alone. -/
theorem compile_nest (o : Options) (node : Node) (n : Nat) :
    Below (nest node n) n n (nest node 0) ∧ (nest node n).compile o = (nest node 0).compile o := by
  refine ⟨below_nest node n, ?_⟩
  rw [compile, compile, visit_nest]

def unionTree (tree : Value) : Value :=
  .dict (Members.named [("kind", .str "sum"), ("types", .list [tree])])

def shellTree : Value :=
  unionTree (unionTree (unionTree
    (.dict (Members.named [("kind", .str "nominal"), ("primitive", .str "string")]))))

def shellCore : Node := nominal (.primitive .string) (.dict [])

/-- The text lies three slots below the root and has a document under a limit of two. -/
theorem compile_nesting_flattened :
    load shellTree = .ok (nest shellCore 2) ∧
      (∀ part ∈ (nest shellCore 2).parts, part.Unreferred) ∧
      Below (nest shellCore 2) 3 2 shellCore ∧
      (nest shellCore 2).compile (Options.upTo {} 2) =
        .ok (Members.named [("type", .str "string")]) := by
  have below : Below (nest shellCore 2) 3 2 shellCore :=
    .step (.alternative List.mem_cons_self) (.step (.alternative List.mem_cons_self)
      (.step (.alternative List.mem_cons_self) (.refl _)))
  refine ⟨rfl, ?_, below, rfl⟩
  simp [shellCore, nest, parts, partsOfSlot, partsOfEach, Unreferred, notes, Value.members,
    Members.get?, Members.lookup]

end Node

end Draftsman
