/-
# Draftsman.Proofs.Drafts -- what every part of a loaded description is made of

Loading makes each node out of the members of one dictionary, once the nodes below it are
made.  So a part of a loaded description is the node of a value that is read with the tree
(`read_of_part`), and is what its draft becomes (`draft_of_part`).  What holds of all contents of
the tree holds of that value (`ReadFrom.inherits`), and of the values that the part has of it
(`drawsOn_of_part`); so they are decoded, if the tree is (`drafted_of_loadAt`).  A fact about all
parts is then one about drafts, with one case for each kind.
-/
import Draftsman.Proofs.Joining
import Draftsman.Proofs.Refusals

namespace Draftsman

set_option autoImplicit false

namespace Node

/-- A node that the draft of a decoded dictionary becomes. -/
def Drafted (part : Node) : Prop :=
  ∃ members path kind notes, Value.membersAreDecoded members = true ∧
    loadNotes members path = .ok notes ∧
      (Draft.ofMembers members path kind).node notes = .ok part

namespace Draft

variable {members : Members} {path : Path} {kind : NodeKind}

/-- The node of a draft and the parts of what is read below it are all of its parts. -/
theorem parts_of_node {holds : Node → Prop} {notes : Value} {node : Node}
    (named : namedKind? members = some kind)
    (below : ∀ v, Reads (.dict members) v →
      ∀ path node, loadAt v path = .ok node → ∀ part ∈ node.parts, holds part)
    (made : (ofMembers members path kind).node notes = .ok node) (own : holds node) :
    ∀ part ∈ node.parts, holds part := by
  have child {name : String} {inner : Node} (asked : name ∈ kind.nodeFields)
      (other : kind ≠ .mapping)
      (loaded : (ofMembers members path kind).child name = .ok inner) :
      ∀ part ∈ inner.parts, holds part := by
    obtain ⟨v, held, loaded⟩ := child_eq_ok.mp loaded
    exact below v (.field named asked held fun same => absurd same other) _ _ loaded
  -- the items of a field that is a list
  have items {name : String} {values : List Value} {nodes : List Node}
      (asked : kind.listField? = some name) (held : Members.get? name members = some (.list values))
      (each : ∀ node ∈ nodes, ∃ value ∈ values, ∃ path, loadAt value path = .ok node) :
      ∀ part ∈ partsOfEach nodes, holds part := by
    intro part there
    obtain ⟨node, listed, there⟩ := mem_partsOfEach.mp there
    obtain ⟨value, mem, path, loaded⟩ := each node listed
    exact below value (.item named asked held mem) path node loaded part there
  cases kind with
  | nominal | predicate =>
      simp only [Draft.node, bind_eq_ok, pure_eq_ok] at made
      obtain ⟨read, -, rfl⟩ := made
      exact List.forall_mem_singleton.mpr own
  | constructor | array =>
      simp only [Draft.node, bind_eq_ok, pure_eq_ok] at made
      obtain ⟨inner, loaded, rfl⟩ := made
      exact List.forall_mem_cons.mpr ⟨own, child (by decide) (by decide) loaded⟩
  | constrained | intersection =>
      simp only [Draft.node, bind_eq_ok, pure_eq_ok] at made
      obtain ⟨first, loaded, second, loaded', rfl⟩ := made
      exact List.forall_mem_cons.mpr ⟨own, List.forall_mem_append.mpr
        ⟨child (by decide) (by decide) loaded, child (by decide) (by decide) loaded'⟩⟩
  | sum =>
      simp only [Draft.node, bind_eq_ok, pure_eq_ok, alternatives_eq_ok] at made
      obtain ⟨types, ⟨values, held, -, loaded⟩, rfl⟩ := made
      exact List.forall_mem_cons.mpr ⟨own, items rfl held (mem_of_loadItems loaded)⟩
  | mapping =>
      simp only [Draft.node] at made
      split at made
      · obtain rfl := pure_eq_ok.mp made
        exact List.forall_mem_singleton.mpr own
      · rename_i filled
        simp only [bind_eq_ok, pure_eq_ok, schemaChild_eq_ok] at made
        obtain ⟨fields, ⟨loaded, -⟩, rfl⟩ := made
        obtain ⟨v, held, loaded⟩ := child_eq_ok.mp loaded
        have some : v.isNull = false := by simpa [held] using filled
        exact List.forall_mem_cons.mpr
          ⟨own, below v (.field named (by decide) held fun _ => some) _ _ loaded⟩
  | aggregate =>
      simp only [Draft.node, bind_eq_ok, pure_eq_ok, schemaChild_eq_ok] at made
      obtain ⟨fields, ⟨loaded, -⟩, rfl⟩ := made
      exact List.forall_mem_cons.mpr ⟨own, child (by decide) (by decide) loaded⟩
  | schema =>
      simp only [Draft.node, bind_eq_ok, pure_eq_ok, keys_eq_ok] at made
      obtain ⟨keys, ⟨-, rfl⟩ | ⟨values, held, loaded⟩, rfl⟩ := made
      · exact List.forall_mem_singleton.mpr own
      · exact List.forall_mem_cons.mpr ⟨own, items rfl held
          (mem_of_loadItems (loadKeys_eq_ok.mp loaded).1)⟩
  | key =>
      simp only [Draft.node, bind_eq_ok, pure_eq_ok] at made
      obtain ⟨name, -, type, loaded, rfl⟩ := made
      exact List.forall_mem_cons.mpr ⟨own, child (by decide) (by decide) loaded⟩
  | enum =>
      simp only [Draft.node, bind_eq_ok, pure_eq_ok] at made
      obtain ⟨type, loaded, values, -, rfl⟩ := made
      exact List.forall_mem_cons.mpr ⟨own, child (by decide) (by decide) loaded⟩

end Draft

/-- Each part of what a tree loads as is the node of a value that is read with the tree. -/
theorem read_of_part : ∀ (tree : Value) (path : Path) (node : Node), loadAt tree path = .ok node →
    ∀ part ∈ node.parts, ∃ v path, ReadFrom tree v ∧ loadAt v path = .ok part
  | .dict members, path, node, loaded => by
      obtain ⟨_, kind, notes, -, -, named, -, made⟩ := draft_of_loadAt loaded
      refine Draft.parts_of_node named (fun v reads path node loaded part there => ?_) made
        ⟨.dict members, path, .refl, loaded⟩
      obtain ⟨inner, path, below, own⟩ := read_of_part v path node loaded part there
      exact ⟨inner, path, .head reads below, own⟩
  | .null, _, _, loaded | .bool _, _, _, loaded | .int _, _, _, loaded
  | .float _, _, _, loaded | .str _, _, _, loaded | .decimal _, _, _, loaded
  | .primitive _, _, _, loaded | .host _, _, _, loaded | .pattern _, _, _, loaded
  | .list _, _, _, loaded | .tuple _, _, _, loaded | .set _, _, _, loaded => by
      cases loaded
termination_by tree => sizeOf tree
decreasing_by exact reads.smaller

/-- Each part of what a tree loads as is what the draft of a dictionary becomes that is read
with the tree. -/
theorem draft_of_part {tree : Value} {path : Path} {node part : Node}
    (loaded : loadAt tree path = .ok node) (there : part ∈ node.parts) :
    ∃ members path kind notes, ReadFrom tree (.dict members) ∧
      loadNotes members path = .ok notes ∧
        (Draft.ofMembers members path kind).node notes = .ok part := by
  obtain ⟨v, path, reads, own⟩ := read_of_part tree path node loaded part there
  cases v with
  | dict members =>
      obtain ⟨_, kind, notes, -, -, -, read, made⟩ := draft_of_loadAt own
      exact ⟨members, path, kind, notes, reads, read, made⟩
  | _ => cases own

/-! ## What is read with a tree -/

/-- A property of all contents of a tree is one of the values that are read with it. -/
theorem ReadFrom.inherits {fitKey fit : Value → Prop}
    (hereditary : Fragment.Hereditary fitKey fit) {tree v : Value} (reads : ReadFrom tree v)
    (fits : fit tree) : fit v := by
  have member {members : Members} {name : String} {v : Value} (fits : fit (.dict members))
      (held : Members.get? name members = some v) : fit v := by
    obtain ⟨key, -, there⟩ := Members.mem_of_get? held
    exact ((hereditary.dict _).mp fits _ there).2
  induction reads with
  | refl => exact fits
  | tail _ step ih =>
      cases step with
      | field named asked held some => exact member ih held
      | item named asked held mem => exact (hereditary.list _).mp (member ih held) _ mem

theorem decoded_hereditary :
    Fragment.Hereditary (fun key => ∃ text, key = .str text) fun v => v.isDecoded = true where
  list items := by
    rw [Value.isDecoded]
    induction items with
    | nil => simp [Value.areDecoded]
    | cons item rest ih => simp [Value.areDecoded, ih]
  dict members := by
    rw [Value.isDecoded]
    induction members with
    | nil => simp [Value.membersAreDecoded]
    | cons member rest ih =>
        obtain ⟨key, value⟩ := member
        cases key <;> simp [Value.membersAreDecoded, ih]

/-- The values that a node has of a dictionary all of whose contents are fit.  The operand of a
type predicate may be a primitive that the dictionary names. -/
structure DrawsOn (fit : Value → Prop) (node : Node) : Prop where
  notes : fit node.notes
  operand : ∀ {name operand notes}, node = predicate name operand notes →
    operand = .null ∨ fit operand ∨ name.equal (.str "type?") = true ∧ ∃ p, operand = .primitive p
  fieldName : ∀ {name type required notes}, node = key name type required notes → fit name

/-- The notes of a node are those of its dictionary, or there are none. -/
theorem loadNotes_cases {members : Members} {path : Path} {notes : Value}
    (read : loadNotes members path = .ok notes) :
    notes = .dict [] ∨ Members.get? "meta" members = some notes := by
  unfold loadNotes at read
  split at read
  · exact .inl (Except.ok.inj read).symm
  · rename_i v held
    split at read
    · split at read
      · exact .inr (Except.ok.inj read ▸ held)
      · cases read
    · exact .inl (Except.ok.inj read).symm

theorem Draft.operand_cases (draft : Draft) (name : Value) :
    draft.operand name = .null ∨ Members.get? "operand" draft.members = some (draft.operand name) ∨
      name.equal (.str "type?") = true ∧ ∃ p, draft.operand name = .primitive p := by
  have found : (Members.get? "operand" draft.members).getD .null = .null ∨
      Members.get? "operand" draft.members =
        some ((Members.get? "operand" draft.members).getD .null) := by
    cases Members.get? "operand" draft.members with
    | none => exact .inl rfl
    | some v => exact .inr rfl
  simp only [Draft.operand]
  split
  · rename_i typed
    split
    · rename_i p named
      exact .inr (.inr ⟨(Bool.and_eq_true_iff.mp typed).1, p, rfl⟩)
    · exact found.imp_right .inl
  · exact found.imp_right .inl

/-- A part of what a tree loads as has its values of the tree. -/
theorem drawsOn_of_part {fitKey fit : Value → Prop} (hereditary : Fragment.Hereditary fitKey fit)
    {tree : Value} (fits : fit tree) {path : Path} {node part : Node}
    (loaded : loadAt tree path = .ok node) (there : part ∈ node.parts) : part.DrawsOn fit := by
  obtain ⟨members, path, kind, notes, reads, read, made⟩ := draft_of_part loaded there
  have member {name : String} {v : Value} (held : Members.get? name members = some v) : fit v := by
    obtain ⟨key, -, there⟩ := Members.mem_of_get? held
    exact ((hereditary.dict _).mp (reads.inherits hereditary fits) _ there).2
  constructor
  · rw [(Draft.kind_notes_of_node made).2]
    rcases loadNotes_cases read with rfl | held
    · exact (hereditary.dict []).mpr (by simp)
    · exact member held
  · rintro name operand own rfl
    obtain rfl : kind = .predicate := (Option.some.inj (Draft.node_kind made)).symm
    simp only [Draft.node, bind_eq_ok, pure_eq_ok] at made
    obtain ⟨_, -, ⟨⟩⟩ := made
    exact (Draft.operand_cases _ name).imp_right (Or.imp_left member)
  · rintro name type required own rfl
    obtain rfl : kind = .key := (Option.some.inj (Draft.node_kind made)).symm
    simp only [Draft.node, bind_eq_ok, pure_eq_ok, Draft.field_eq_ok] at made
    obtain ⟨_, held, _, -, ⟨⟩⟩ := made
    exact member held

/-- Each part of what a decoded tree loads as is what a draft becomes. -/
theorem drafted_of_loadAt (tree : Value) (decoded : tree.isDecoded = true) (path : Path)
    (node : Node) (loaded : loadAt tree path = .ok node) : ∀ part ∈ node.parts, part.Drafted := by
  intro part there
  obtain ⟨members, path, kind, notes, reads, read, made⟩ := draft_of_part loaded there
  exact ⟨members, path, kind, notes, reads.inherits decoded_hereditary decoded, read, made⟩

end Node

end Draftsman
