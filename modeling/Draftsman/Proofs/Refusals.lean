/-
# Draftsman.Proofs.Refusals -- what a tree is refused for

Loading a tree gives a node, or it tells that the tree is malformed or that it names a kind that
does not exist (`LoadFault.Documented`).  Two values are used before they are checked: that in
place of a kind is looked up, and that in place of an enumeration's values is gone through.  A
dictionary whose kind is no key, and an enumeration whose values offer no items, are unreadable
(`Unreadable`): they give faults of another kind, which point to no place in the tree.  So does an
integer with too many digits in place of a kind or of a primitive, as it cannot be shown.

The fields of each kind say where in a tree nodes are read (`Reads`), one below the other
(`ReadFrom`).  The main result is `load_documented`: what a tree is refused for is documented,
or the fault of an unreadable value that is read as a node, and no tree with such a value is
loaded.  Both halves go from a dictionary to the values in its fields:

* a dictionary accounts for what the loading of each of its fields fails with
  (`loadAt_accounts`, by recursion on the tree);
* all that is read as a node is loaded, if the dictionary is (`ReadFrom.loaded`).
-/
import Draftsman.Proofs.Grammar
import Mathlib.Logic.Relation

namespace Draftsman

set_option autoImplicit false

/-! ## Fields that hold nodes -/

namespace NodeKind

def nodeFields : NodeKind → List String
  | constructor | key | enum => ["type"]
  | constrained => ["type", "rule"]
  | intersection => ["left", "right"]
  | mapping | aggregate => ["schema"]
  | array => ["member"]
  | nominal | predicate | sum | schema => []

def listField? : NodeKind → Option String
  | sum => some "types"
  | schema => some "keys"
  | _ => none

end NodeKind

/-- Whether a fault is one of those that loading is documented to give. -/
def LoadFault.Documented (fault : LoadFault) : Prop :=
  fault.failure.kind = .malformedTree ∨ fault.failure.kind = .unsupportedNode

namespace Node

def namedKind? (members : Members) : Option NodeKind :=
  (Members.get? "kind" members).bind fun kind => kind.text?.bind NodeKind.ofName?

/-- The node of a tree is read with the node of a value in one of its fields.  A null in the
place of the field set of a mapping stands for none. -/
inductive Reads : Value → Value → Prop where
  | field {members : Members} {kind : NodeKind} {name : String} {v : Value}
      (named : namedKind? members = some kind) (asked : name ∈ kind.nodeFields)
      (held : Members.get? name members = some v)
      (some : kind = .mapping → v.isNull = false) : Reads (.dict members) v
  | item {members : Members} {kind : NodeKind} {name : String} {values : List Value} {v : Value}
      (named : namedKind? members = some kind) (asked : kind.listField? = some name)
      (held : Members.get? name members = some (.list values)) (mem : v ∈ values) :
      Reads (.dict members) v

/-- A value is read as a node, one field after the other. -/
abbrev ReadFrom : Value → Value → Prop := Relation.ReflTransGen Reads

/-- A dictionary in which a value cannot be used as what it stands for, or cannot be shown in the
refusal of it; and the fault that this gives. -/
inductive Unreadable : Value → LoadFault → Prop where
  | kind {members : Members} {kind : Value} (held : Members.get? "kind" members = some kind)
      (unkeyed : kind.isKey = false) : Unreadable (.dict members) .badKind
  | longKind {members : Members} {kind : Value} (held : Members.get? "kind" members = some kind)
      (unknown : namedKind? members = none) (long : kind.isTooLong = true) :
      Unreadable (.dict members) (.unsupported kind)
  | longPrimitive {members : Members} {path : Path} {v : Value}
      (named : namedKind? members = some .nominal)
      (held : Members.get? "primitive" members = some v) (unknown : v.toPrimitive? = none)
      (long : v.isTooLong = true) :
      Unreadable (.dict members) (.malformed path (.unknownPrimitive v))
  | values {members : Members} {v : Value} (named : namedKind? members = some .enum)
      (held : Members.get? "values" members = some v) (none : v.items? = none) :
      Unreadable (.dict members) .badValues

theorem Reads.smaller {tree v : Value} (reads : Reads tree v) : sizeOf v < sizeOf tree := by
  cases reads with
  | field named asked held some =>
      have inner := Members.sizeOf_lt_of_get? held
      rw [Value.dict.sizeOf_spec]
      omega
  | item named asked held mem =>
      have outer := Members.sizeOf_lt_of_get? held
      have inner := List.sizeOf_lt_of_mem mem
      rw [Value.list.sizeOf_spec] at outer
      rw [Value.dict.sizeOf_spec]
      omega

/-! ## Accounting for faults -/

/-- A step whose fault, if it has one, is documented or that of an unreadable value which is
read with a tree. -/
def Accounts (tree : Value) {α : Type} (step : Except LoadFault α) : Prop :=
  FailsWith (fun fault => fault.Documented ∨ ∃ v, ReadFrom tree v ∧ Unreadable v fault) step

namespace Accounts

variable {α β : Type} {tree v : Value} {step : Except LoadFault α} {fault : LoadFault}

theorem bind {next : α → Except LoadFault β} (first : Accounts tree step)
    (rest : ∀ value, Accounts tree (next value)) : Accounts tree (step >>= next) :=
  FailsWith.bind first rest

theorem documented (documented : fault.Documented) :
    Accounts tree (.error fault : Except LoadFault α) := .error (.inl documented)

theorem unreadable (unreadable : Unreadable tree fault) :
    Accounts tree (.error fault : Except LoadFault α) := .error (.inr ⟨tree, .refl, unreadable⟩)

/-- What is accounted for by a value is accounted for by the trees that it is read with. -/
theorem read (reads : Reads tree v) (accounts : Accounts v step) : Accounts tree step := by
  intro fault failed
  rcases accounts fault failed with documented | ⟨inner, from', unreadable⟩
  · exact .inl documented
  · exact .inr ⟨inner, .head reads from', unreadable⟩

end Accounts

/-! ## What the fields of a draft fail with -/

theorem loadNotes_accounts (tree : Value) (members : Members) (path : Path) :
    Accounts tree (loadNotes members path) := by
  unfold loadNotes
  split
  · exact .ok _
  · split
    · split
      · exact .ok _
      · exact .documented (.inl rfl)
    · exact .ok _

namespace Draft

variable {members : Members} {path : Path} {kind : NodeKind}

theorem field_accounts (tree : Value) (draft : Draft) (name : String) :
    Accounts tree (draft.field name) := by
  unfold field
  split
  · exact .ok _
  · exact .documented (.inl rfl)

theorem primitive_accounts (named : namedKind? members = some .nominal) :
    Accounts (.dict members) ((ofMembers members path .nominal).primitive) := by
  simp only [primitive, field, bind, Except.bind]
  cases held : Members.get? "primitive" members with
  | none => exact .documented (.inl rfl)
  | some v =>
      simp only
      cases found : v.toPrimitive? with
      | some p => exact .ok p
      | none =>
          cases long : v.isTooLong with
          | true => exact .unreadable (.longPrimitive named held found long)
          | false =>
              have shown : (LoadDefect.unknownPrimitive v).shown.isTooLong = false := long
              exact .documented (.inl (by rw [LoadFault.failure, Failure.showing_of_short shown]))

/-- A dictionary all of whose fields account for what they fail with. -/
def Below (members : Members) : Prop :=
  ∀ v, Reads (.dict members) v → ∀ path, Accounts v (loadAt v path)

theorem child_accounts {name : String} (below : Below members)
    (reads : ∀ v, Members.get? name members = some v → Reads (.dict members) v) :
    Accounts (.dict members) ((ofMembers members path kind).child name) := by
  simp only [child, offer, Offer.find?_offers]
  cases held : Members.get? name members with
  | none => exact .documented (.inl rfl)
  | some v => exact .read (reads v held) (below v (reads v held) _)

theorem schemaChild_accounts (below : Below members)
    (reads : ∀ v, Members.get? "schema" members = some v → Reads (.dict members) v) :
    Accounts (.dict members) ((ofMembers members path kind).schemaChild) := by
  refine (child_accounts below reads).bind fun node => ?_
  split
  · exact .ok _
  · exact .documented (.inl rfl)

theorem loadItems_accounts {tree : Value} {values : List Value} (path : Path)
    (each : ∀ v ∈ values, ∀ path, Accounts tree (loadAt v path)) (index : Nat) :
    Accounts tree (loadItems path index (loadEach values)) := by
  induction values generalizing index with
  | nil => exact .ok _
  | cons first rest ih =>
      obtain ⟨own, others⟩ := List.forall_mem_cons.mp each
      exact (own _).bind fun _ => (ih others (index + 1)).bind fun _ => .ok _

theorem loadKeys_accounts {tree : Value} {values : List Value} (path : Path)
    (each : ∀ v ∈ values, ∀ path, Accounts tree (loadAt v path)) (index : Nat) :
    Accounts tree (loadKeys path index (loadEach values)) := by
  induction values generalizing index with
  | nil => exact .ok _
  | cons first rest ih =>
      obtain ⟨own, others⟩ := List.forall_mem_cons.mp each
      refine (own _).bind fun node => ?_
      split
      · exact (ih others (index + 1)).bind fun _ => .ok _
      · exact .documented (.inl rfl)

/-- The items of a field that is a list account for what they fail with. -/
theorem items_account {name : String} {values : List Value} (below : Below members)
    (named : namedKind? members = some kind) (asked : kind.listField? = some name)
    (held : Members.get? name members = some (.list values)) :
    ∀ v ∈ values, ∀ path, Accounts (.dict members) (loadAt v path) := by
  intro v mem path
  have reads : Reads (.dict members) v := .item named asked held mem
  exact .read reads (below v reads path)

theorem alternatives_accounts (below : Below members) (named : namedKind? members = some .sum) :
    Accounts (.dict members) ((ofMembers members path .sum).alternatives) := by
  simp only [alternatives, offer, Offer.find?_offers]
  cases held : Members.get? "types" members with
  | none => exact .documented (.inl rfl)
  | some v =>
      cases v with
      | list values =>
          cases values with
          | nil => exact .documented (.inl rfl)
          | cons first rest => exact loadItems_accounts _ (items_account below named rfl held) 0
      | _ => exact .documented (.inl rfl)

theorem keys_accounts (below : Below members) (named : namedKind? members = some .schema) :
    Accounts (.dict members) ((ofMembers members path .schema).keys) := by
  simp only [keys, Offer.find?_offers]
  cases held : Members.get? "keys" members with
  | none => exact .ok _
  | some v =>
      cases v with
      | list values => exact loadKeys_accounts _ (items_account below named rfl held) 0
      | _ => exact .documented (.inl rfl)

theorem values_accounts (named : namedKind? members = some .enum) :
    Accounts (.dict members) ((ofMembers members path .enum).values) := by
  unfold values
  split
  · exact .ok _
  · rename_i v held
    split
    · exact .ok _
    · rename_i none
      exact .unreadable (.values named held none)

/-- A draft accounts for what the node of its kind fails with. -/
theorem node_accounts (below : Below members) (named : namedKind? members = some kind)
    (notes : Value) : Accounts (.dict members) ((ofMembers members path kind).node notes) := by
  -- a field that the kind asks for, where that is no mapping
  have child {name : String} (asked : name ∈ kind.nodeFields) (other : kind ≠ .mapping) :
      Accounts (.dict members) ((ofMembers members path kind).child name) :=
    child_accounts below fun v held => .field named asked held fun same => absurd same other
  cases kind with
  | nominal => exact (primitive_accounts named).bind fun _ => .ok _
  | predicate => exact (field_accounts _ _ _).bind fun _ => .ok _
  | constructor | array => exact (child (by decide) (by decide)).bind fun _ => .ok _
  | constrained | intersection =>
      refine (child (by decide) (by decide)).bind fun _ => ?_
      exact (child (by decide) (by decide)).bind fun _ => .ok _
  | sum => exact (alternatives_accounts below named).bind fun _ => .ok _
  | schema => exact (keys_accounts below named).bind fun _ => .ok _
  | mapping =>
      simp only [node]
      split
      · exact .ok _
      · rename_i some
        refine (schemaChild_accounts below fun v held => ?_).bind fun _ => .ok _
        refine .field named (by decide) held fun _ => ?_
        simpa [held] using some
  | aggregate =>
      refine (schemaChild_accounts below fun v held => ?_).bind fun _ => .ok _
      exact .field named (by decide) held fun same => by cases same
  | key =>
      refine (field_accounts _ _ _).bind fun _ => ?_
      exact (child (by decide) (by decide)).bind fun _ => .ok _
  | enum =>
      refine (child (by decide) (by decide)).bind fun _ => ?_
      exact (values_accounts named).bind fun _ => .ok _

end Draft

/-- A dictionary accounts for what it fails with, if its fields do. -/
theorem build_accounts {members : Members} (below : Draft.Below members) (path : Path) :
    Accounts (.dict members) (loadAt (.dict members) path) := by
  simp only [loadAt, build]
  split
  · exact .documented (.inl rfl)
  · rename_i v held
    split
    · split
      · rename_i unknown
        have unnamed : namedKind? members = none := by rw [namedKind?, held]; exact unknown
        cases long : v.isTooLong with
        | true => exact .unreadable (.longKind held unnamed long)
        | false =>
            exact .documented (.inr (by rw [LoadFault.failure, Failure.showing_of_short long]))
      · rename_i kind found
        have named : namedKind? members = some kind := by rw [namedKind?, held]; exact found
        exact (loadNotes_accounts _ members path).bind fun notes =>
          Draft.node_accounts below named notes
    · rename_i unkeyed
      exact .unreadable (.kind held (by simpa using unkeyed))

/-- Every tree accounts for what its loading fails with. -/
theorem loadAt_accounts (tree : Value) (path : Path) : Accounts tree (loadAt tree path) := by
  cases tree with
  | dict members => exact build_accounts (fun v reads path => loadAt_accounts v path) path
  | _ => exact .documented (.inl rfl)
termination_by sizeOf tree
decreasing_by exact reads.smaller

/-! ## What is read with a tree that is loaded -/

/-- A dictionary that is loaded names a kind under a key, and is the node of a draft. -/
theorem draft_of_loadAt {members : Members} {path : Path} {node : Node}
    (loaded : loadAt (.dict members) path = .ok node) :
    ∃ v kind notes, Members.get? "kind" members = some v ∧ v.isKey = true ∧
      namedKind? members = some kind ∧ loadNotes members path = .ok notes ∧
        (Draft.ofMembers members path kind).node notes = .ok node := by
  simp only [loadAt, build] at loaded
  split at loaded
  · cases loaded
  · rename_i v held
    split at loaded
    · rename_i keyed
      split at loaded
      · cases loaded
      · rename_i kind found
        obtain ⟨notes, read, made⟩ := bind_eq_ok.mp loaded
        exact ⟨v, kind, notes, held, keyed, by rw [namedKind?, held]; exact found, read, made⟩
    · cases loaded

namespace Draft

variable {members : Members} {path : Path} {kind : NodeKind} {notes : Value} {node : Node}

/-- A draft that becomes a node has read the fields that its kind asks for, and their nodes are
parts of it. -/
theorem child_of_node (made : (ofMembers members path kind).node notes = .ok node) {name : String}
    (asked : name ∈ kind.nodeFields) {v : Value} (held : Members.get? name members = some v)
    (some : kind = .mapping → v.isNull = false) :
    ∃ inner, (ofMembers members path kind).child name = .ok inner ∧
      ∀ part ∈ inner.parts, part ∈ node.parts := by
  cases kind with
  | nominal | predicate | sum | schema => cases asked
  | constructor | array =>
      obtain rfl := List.mem_singleton.mp asked
      simp only [Draft.node, bind_eq_ok, pure_eq_ok] at made
      obtain ⟨inner, loaded, rfl⟩ := made
      exact ⟨inner, loaded, fun _ => List.mem_cons_of_mem _⟩
  | enum =>
      obtain rfl := List.mem_singleton.mp asked
      simp only [Draft.node, bind_eq_ok, pure_eq_ok] at made
      obtain ⟨inner, loaded, values, -, rfl⟩ := made
      exact ⟨inner, loaded, fun _ => List.mem_cons_of_mem _⟩
  | key =>
      obtain rfl := List.mem_singleton.mp asked
      simp only [Draft.node, bind_eq_ok, pure_eq_ok] at made
      obtain ⟨_, -, inner, loaded, rfl⟩ := made
      exact ⟨inner, loaded, fun _ => List.mem_cons_of_mem _⟩
  | constrained | intersection =>
      simp only [Draft.node, bind_eq_ok, pure_eq_ok] at made
      obtain ⟨first, loaded, second, loaded', rfl⟩ := made
      rcases List.mem_cons.mp asked with rfl | asked
      · exact ⟨first, loaded, fun _ there => List.mem_cons_of_mem _ (List.mem_append_left _ there)⟩
      · obtain rfl := List.mem_singleton.mp asked
        exact ⟨second, loaded', fun _ there => List.mem_cons_of_mem _ (List.mem_append_right _ there)⟩
  | aggregate =>
      obtain rfl := List.mem_singleton.mp asked
      simp only [Draft.node, bind_eq_ok, pure_eq_ok, schemaChild_eq_ok] at made
      obtain ⟨inner, ⟨loaded, -⟩, rfl⟩ := made
      exact ⟨inner, loaded, fun _ => List.mem_cons_of_mem _⟩
  | mapping =>
      obtain rfl := List.mem_singleton.mp asked
      have filled : ((Members.get? "schema" members).getD .null).isNull = false := by
        rw [held]
        exact some rfl
      simp only [Draft.node, filled, Bool.false_eq_true, if_false, bind_eq_ok, pure_eq_ok,
        schemaChild_eq_ok] at made
      obtain ⟨inner, ⟨loaded, -⟩, rfl⟩ := made
      exact ⟨inner, loaded, fun _ => List.mem_cons_of_mem _⟩

/-- A draft that becomes a node has read each item of the list that its kind asks for, and
their nodes are parts of it. -/
theorem items_of_node (made : (ofMembers members path kind).node notes = .ok node) {name : String}
    (asked : kind.listField? = some name) {values : List Value}
    (held : Members.get? name members = some (.list values)) :
    ∀ v ∈ values, ∃ path inner, loadAt v path = .ok inner ∧
      ∀ part ∈ inner.parts, part ∈ node.parts := by
  intro v mem
  cases kind with
  | sum =>
      obtain rfl := Option.some.inj asked
      simp only [Draft.node, bind_eq_ok, pure_eq_ok, alternatives_eq_ok] at made
      obtain ⟨nodes, ⟨types, there, -, loaded⟩, rfl⟩ := made
      cases held.symm.trans there
      obtain ⟨path, inner, listed, own⟩ := loadAt_of_loadItems loaded v mem
      exact ⟨path, inner, own, fun _ there =>
        List.mem_cons_of_mem _ (mem_partsOfEach.mpr ⟨inner, listed, there⟩)⟩
  | schema =>
      obtain rfl := Option.some.inj asked
      simp only [Draft.node, bind_eq_ok, pure_eq_ok, keys_eq_ok] at made
      obtain ⟨nodes, ⟨absent, -⟩ | ⟨keys, there, loaded⟩, rfl⟩ := made
      · cases held.symm.trans absent
      · cases held.symm.trans there
        obtain ⟨loaded, -⟩ := loadKeys_eq_ok.mp loaded
        obtain ⟨path, inner, listed, own⟩ := loadAt_of_loadItems loaded v mem
        exact ⟨path, inner, own, fun _ there =>
          List.mem_cons_of_mem _ (mem_partsOfEach.mpr ⟨inner, listed, there⟩)⟩
  | _ => cases asked

end Draft

variable {tree v : Value} {path : Path} {node : Node}

/-- What is read with a tree that is loaded is loaded, and its nodes are parts of the tree's. -/
theorem Reads.loaded (reads : Reads tree v) (loaded : loadAt tree path = .ok node) :
    ∃ path inner, loadAt v path = .ok inner ∧ ∀ part ∈ inner.parts, part ∈ node.parts := by
  cases reads with
  | field named asked held some =>
      obtain ⟨_, kind, notes, -, -, own, -, made⟩ := draft_of_loadAt loaded
      cases named.symm.trans own
      obtain ⟨inner, child, below⟩ := Draft.child_of_node made asked held some
      obtain ⟨_, there, read⟩ := Draft.child_eq_ok.mp child
      cases held.symm.trans there
      exact ⟨_, inner, read, below⟩
  | item named asked held mem =>
      obtain ⟨_, kind, notes, -, -, own, -, made⟩ := draft_of_loadAt loaded
      cases named.symm.trans own
      exact Draft.items_of_node made asked held v mem

theorem ReadFrom.loaded (reads : ReadFrom tree v) (loaded : loadAt tree path = .ok node) :
    ∃ path inner, loadAt v path = .ok inner ∧ ∀ part ∈ inner.parts, part ∈ node.parts := by
  induction reads with
  | refl => exact ⟨path, node, loaded, fun _ => id⟩
  | tail _ step ih =>
      obtain ⟨path, outer, own, above⟩ := ih
      obtain ⟨path, inner, own, below⟩ := step.loaded own
      exact ⟨path, inner, own, fun part there => above part (below part there)⟩

/-- What is unreadable is not loaded. -/
theorem Unreadable.not_loaded {fault : LoadFault} (unreadable : Unreadable v fault) :
    loadAt v path ≠ .ok node := by
  intro loaded
  cases unreadable with
  | kind held unkeyed =>
      obtain ⟨_, _, _, there, keyed, -, -⟩ := draft_of_loadAt loaded
      cases held.symm.trans there
      rw [unkeyed] at keyed
      cases keyed
  | longKind held unknown long =>
      obtain ⟨_, kind, notes, -, -, own, -, -⟩ := draft_of_loadAt loaded
      cases unknown.symm.trans own
  | longPrimitive named held unknown long =>
      obtain ⟨_, kind, notes, -, -, own, -, made⟩ := draft_of_loadAt loaded
      cases named.symm.trans own
      obtain ⟨p, read, -⟩ := bind_eq_ok.mp made
      obtain ⟨v, there, found⟩ := Draft.primitive_eq_ok.mp read
      cases held.symm.trans there
      cases unknown.symm.trans found
  | values named held none =>
      obtain ⟨_, kind, notes, -, -, own, -, made⟩ := draft_of_loadAt loaded
      cases named.symm.trans own
      obtain ⟨_, -, made⟩ := bind_eq_ok.mp made
      obtain ⟨items, read, -⟩ := bind_eq_ok.mp made
      have offered := Draft.values_isOk.mp ⟨items, read⟩ _ held
      rw [none] at offered
      cases offered

/-! ## Trees -/

/-- A tree is loaded, or refused with a documented fault, unless a value that is read as a node
is unreadable: another fault is that of such a value, and no tree with one is loaded. -/
theorem load_documented (tree : Value) :
    (∀ fault, load tree = .error fault →
        fault.Documented ∨ ∃ v, ReadFrom tree v ∧ Unreadable v fault) ∧
      ∀ node, load tree = .ok node → ∀ v, ReadFrom tree v → ∀ fault, ¬ Unreadable v fault := by
  constructor
  · exact loadAt_accounts tree []
  · intro node loaded v reads fault unreadable
    obtain ⟨path, inner, own, -⟩ := ReadFrom.loaded reads loaded
    exact unreadable.not_loaded own

def deckTree (kind values : Value) : Value :=
  .dict (Members.named [("kind", .str "array"),
    ("member", .dict (Members.named [("kind", kind), ("values", values),
      ("type", .dict (Members.named [("kind", .str "nominal"), ("primitive", .str "string")]))]))])

theorem load_documented_deck :
    (∃ node, load (deckTree (.str "enum") (.str "AKQJ")) = .ok node) ∧
      (∀ v, ReadFrom (deckTree (.str "enum") (.str "AKQJ")) v → ∀ fault, ¬ Unreadable v fault) ∧
      load (deckTree (.str "enum") .null) = .error .badValues ∧
      ∃ v, ReadFrom (deckTree (.str "enum") .null) v ∧ Unreadable v .badValues := by
  obtain ⟨node, loaded⟩ : ∃ node, load (deckTree (.str "enum") (.str "AKQJ")) = .ok node := ⟨_, rfl⟩
  have refused : load (deckTree (.str "enum") .null) = .error .badValues := rfl
  refine ⟨⟨node, loaded⟩, (load_documented _).2 node loaded, refused, ?_⟩
  rcases (load_documented _).1 _ refused with documented | found
  · rcases documented with impossible | impossible <;> cases impossible
  · exact found

/-- A list in place of a kind, and no list in place of the values, are refused with faults that
are not documented. -/
theorem load_undocumented :
    load (.dict (Members.named [("kind", .list [.str "a"])])) = .error .badKind ∧
      ¬ LoadFault.Documented .badKind ∧
      load (deckTree (.str "enum") (.int 5)) = .error .badValues ∧
      ¬ LoadFault.Documented .badValues := by
  refine ⟨rfl, ?_, rfl, ?_⟩
  · rintro (impossible | impossible) <;> cases impossible
  · rintro (impossible | impossible) <;> cases impossible

end Node

end Draftsman
