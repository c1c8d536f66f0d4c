/-
# Draftsman.Proofs.Typing -- what the fields of a loaded node hold

Each field of a node is meant for something: for a node, a field set, a list of fields, a
primitive, a truth value, for notes, or for a name.  Loading sees to all of them but the names.
The name of a predicate, of a named object type or of a field is taken from the tree as it is
(`Draft.name?_of_node`), and it need not be a text.

The main result is `load_typed`: what is loaded holds in every slot what its kind asks for, and
its names are texts exactly if no value that is read as a node has another name (`Misnamed`).
Each half goes from the parts of the description to the values they are read from, or back.
-/
import Draftsman.Proofs.Drafts

namespace Draftsman

set_option autoImplicit false

def NodeKind.hasName : NodeKind → Bool
  | predicate | aggregate | key => true
  | _ => false

namespace Node

/-- Whether each field of a node holds what it is meant for; a name is a text. -/
def isTyped (node : Node) : Bool := node.formed && node.name?.all fun name => name.text?.isSome

/-- A tree of which every part is typed. -/
def Typed (tree : Node) : Prop := tree.isNode = true ∧ ∀ part ∈ tree.parts, part.isTyped = true

/-- A dictionary that names a kind of nodes with names, and has a name that is no text. -/
inductive Misnamed : Value → Prop where
  | name {members : Members} {kind : NodeKind} {name : Value}
      (named : namedKind? members = some kind) (asked : kind.hasName = true)
      (held : Members.get? "name" members = some name) (other : name.text? = none) :
      Misnamed (.dict members)

/-- The name of a node is that of its dictionary.  Without one, it is empty. -/
theorem Draft.name?_of_node {members : Members} {path : Path} {kind : NodeKind} {notes : Value}
    {node : Node} (made : (ofMembers members path kind).node notes = .ok node) :
    node.name? =
      if kind.hasName then some ((Members.get? "name" members).getD (.str "")) else none := by
  cases kind with
  | predicate =>
      simp only [Draft.node, bind_eq_ok, pure_eq_ok, field_eq_ok] at made
      obtain ⟨name, held, rfl⟩ := made
      simp [name?, NodeKind.hasName, held]
  | key =>
      simp only [Draft.node, bind_eq_ok, pure_eq_ok, field_eq_ok] at made
      obtain ⟨name, held, type, -, rfl⟩ := made
      simp [name?, NodeKind.hasName, held]
  | aggregate =>
      simp only [Draft.node, bind_eq_ok, pure_eq_ok] at made
      obtain ⟨fields, -, rfl⟩ := made
      rfl
  | nominal | constructor | array | sum | schema =>
      simp only [Draft.node, bind_eq_ok, pure_eq_ok] at made
      obtain ⟨_, -, rfl⟩ := made
      rfl
  | constrained | intersection | enum =>
      simp only [Draft.node, bind_eq_ok, pure_eq_ok] at made
      obtain ⟨_, -, _, -, rfl⟩ := made
      rfl
  | mapping =>
      simp only [Draft.node] at made
      split at made
      · obtain rfl := pure_eq_ok.mp made
        rfl
      · simp only [bind_eq_ok, pure_eq_ok] at made
        obtain ⟨_, -, rfl⟩ := made
        rfl

/-- A node has another name than a text only if it is loaded from a value that is misnamed. -/
theorem misnamed_of_loadAt {v : Value} {path : Path} {node : Node}
    (loaded : loadAt v path = .ok node) :
    node.name?.all (fun name => name.text?.isSome) = true ↔ ¬ Misnamed v := by
  cases v with
  | dict members =>
      obtain ⟨_, kind, notes, -, -, named, -, made⟩ := draft_of_loadAt loaded
      rw [Draft.name?_of_node made]
      constructor
      · rintro text ⟨named', asked, held, other⟩
        cases named.symm.trans named'
        simp [asked, held, other] at text
      · intro fine
        by_cases asked : kind.hasName = true
        · cases held : Members.get? "name" members with
          | none => simp [asked, Value.text?]
          | some name =>
              rw [if_pos asked]
              by_contra other
              exact fine (.name named asked held (by simpa using other))
        · simp [asked]
  | _ => cases loaded

/-- A loaded description holds in every slot what the kind of the node asks for.  Its names are
texts, unless a value that is read as a node has another name. -/
theorem load_typed {tree : Value} {node : Node} (loaded : load tree = .ok node) :
    node.Formed ∧ (node.Typed ↔ ∀ v, ReadFrom tree v → ¬ Misnamed v) := by
  have formed := load_formed loaded
  refine ⟨formed, ?_, ?_⟩
  · intro typed v reads
    obtain ⟨path, inner, own, below⟩ := ReadFrom.loaded reads loaded
    have isNode : inner.isNode = true := (loadAt_sound v path inner own).1
    have there := typed.2 inner (below inner (mem_parts_self isNode))
    rw [Node.isTyped, Bool.and_eq_true] at there
    exact (misnamed_of_loadAt own).mp there.2
  · intro fine
    refine ⟨formed.1, fun part there => ?_⟩
    obtain ⟨v, path, reads, own⟩ := read_of_part tree [] node loaded part there
    rw [Node.isTyped, Bool.and_eq_true]
    exact ⟨formed.2 part there, (misnamed_of_loadAt own).mpr (fine v reads)⟩

def cardTree (name field : Value) : Value :=
  .dict (Members.named [("kind", .str "aggregate"), ("name", name),
    ("schema", .dict (Members.named [("kind", .str "schema"),
      ("keys", .list [.dict (Members.named [("kind", .str "key"), ("name", field),
        ("type", .dict (Members.named [("kind", .str "nominal"),
          ("primitive", .str "string")]))])])]))])

theorem load_typed_card :
    (∃ node, load (cardTree (.str "Card") (.str "suit")) = .ok node ∧ node.Typed ∧
        ∀ v, ReadFrom (cardTree (.str "Card") (.str "suit")) v → ¬ Misnamed v) ∧
      ∃ node, load (cardTree (.str "Card") .null) = .ok node ∧ node.Formed ∧ ¬ node.Typed ∧
        ∃ v, ReadFrom (cardTree (.str "Card") .null) v ∧ Misnamed v := by
  obtain ⟨node, loaded, typed⟩ :
      ∃ node, load (cardTree (.str "Card") (.str "suit")) = .ok node ∧ node.Typed :=
    ⟨_, rfl, rfl, by decide⟩
  obtain ⟨odd, loaded', untyped⟩ :
      ∃ node, load (cardTree (.str "Card") .null) = .ok node ∧ ¬ node.Typed :=
    ⟨_, rfl, fun typed => absurd typed.2 (by decide)⟩
  refine ⟨⟨node, loaded, typed, (load_typed loaded).2.mp typed⟩,
    odd, loaded', (load_typed loaded').1, untyped, ?_⟩
  by_contra none
  exact untyped ((load_typed loaded').2.mpr fun v reads misnamed => none ⟨v, reads, misnamed⟩)

/-- A predicate, a field and a named object type are loaded with names that are no texts. -/
theorem load_misnamed :
    (∃ node, load (.dict (Members.named [("kind", .str "predicate"), ("name", .int 5)])) =
        .ok node ∧ ¬ node.Typed) ∧
      (∃ node, load (cardTree (.str "Card") .null) = .ok node ∧ ¬ node.Typed) ∧
      ∃ node, load (cardTree (.list [.str "Card"]) (.str "suit")) = .ok node ∧ ¬ node.Typed :=
  ⟨⟨_, rfl, fun typed => absurd typed.2 (by decide)⟩,
    ⟨_, rfl, fun typed => absurd typed.2 (by decide)⟩,
    ⟨_, rfl, fun typed => absurd typed.2 (by decide)⟩⟩

end Node

end Draftsman
