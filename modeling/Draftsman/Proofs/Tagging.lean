/-
# Draftsman.Proofs.Tagging -- what is written is loaded back

A description is written as a tagged tree (`Node.tagged`) and a tagged tree is loaded as a
description.  Writing drops one thing, the function of a constructor, and blurs another: a
type predicate with the name of a primitive for its operand is written as one with the
primitive itself.  A node with neither is `lossless`.

The main result is `load_tagged`: a formed description of lossless nodes is loaded back from
its tree, and every description that a decoded tree loads as is one of these, so writing
what was loaded and loading it again changes nothing.

* `loadAt_tag` loads the dictionary of a node, kind and notes first;
* `loadAt_tagged` follows the tree, one case for each kind;
* `lossless_of_drafted` says why loading gives lossless nodes only.
-/
import Draftsman.Node.Tagged
import Draftsman.Proofs.Drafts
import Draftsman.Proofs.Equality

namespace Draftsman

set_option autoImplicit false

def Value.namesPrimitive : Value → Bool
  | str s => (Primitive.ofName? s).isSome
  | _ => false

namespace Node

/-- Whether nothing about a node is lost when it is written. -/
def lossless : Node → Bool
  | constructor _ fn _ => fn.isNull
  | predicate name operand _ => !(name.equal (.str "type?") && operand.namesPrimitive)
  | _ => true

/-! ## Loading a dictionary -/

/-- The members of the dictionary of a node. -/
abbrev taggedMembers (kind : NodeKind) (fields : List (String × Value)) (notes : Value) : Members :=
  Members.named (("kind", .str kind.name) :: fields ++ [("meta", notes)])

/-- Notes are read back, also those that are empty. -/
theorem loadNotes_dict_of_get? {members own : Members} (path : Path)
    (held : Members.get? "meta" members = some (.dict own)) :
    loadNotes members path = .ok (.dict own) := by
  rw [loadNotes, held]
  cases own <;> rfl

/-- The dictionary of a node becomes what its draft becomes. -/
theorem loadAt_tag {kind : NodeKind} {fields : List (String × Value)} {own : Members}
    (fresh : fields.lookup "meta" = none) (path : Path) :
    loadAt (tag kind fields (.dict own)) path =
      (Draft.ofMembers (taggedMembers kind fields (.dict own)) path kind).node (.dict own) := by
  have named : Members.get? "kind" (taggedMembers kind fields (.dict own)) =
      some (.str kind.name) := by
    rw [Members.get?_named]
    rfl
  have noted : Members.get? "meta" (taggedMembers kind fields (.dict own)) = some (.dict own) := by
    rw [Members.get?_named, List.cons_append, List.lookup_cons, List.lookup_append, fresh]
    rfl
  rw [tag, loadAt_of_names named, loadNotes_dict_of_get? path noted]
  rfl

/-- The operand of a lossless predicate is read back. -/
theorem operand_of_tagged {draft : Draft} {name operand notes : Value}
    (lossless : (predicate name operand notes).lossless = true)
    (held : Members.get? "operand" draft.members = some (tagOperand name operand)) :
    draft.operand name = operand := by
  simp only [Draft.operand, held, Option.getD_some, tagOperand]
  by_cases typed : name.equal (.str "type?") = true
  · simp only [typed, if_true, Bool.true_and]
    cases operand with
    | primitive p =>
        simp [tagPrimitive, Value.text?, Value.toPrimitive?, Primitive.ofName?_name]
    | str s =>
        have unknown : Primitive.ofName? s = none := by
          simpa [Node.lossless, typed, Value.namesPrimitive] using lossless
        simp [tagPrimitive, Value.text?, Value.toPrimitive?, unknown]
    | _ => rfl
  · simp [typed]

/-! ## Loading a description -/

/-- Each tree of a list is loaded, if each is by itself. -/
theorem loadItems_tagged {nodes : List Node}
    (each : ∀ node ∈ nodes, ∀ path, loadAt (tagged node) path = .ok node) (path : Path)
    (index : Nat) : Draft.loadItems path index (loadEach (taggedEach nodes)) = .ok nodes := by
  induction nodes generalizing index with
  | nil => rfl
  | cons node rest ih =>
      obtain ⟨own, others⟩ := List.forall_mem_cons.mp each
      exact bind_eq_ok.mpr ⟨node, own _, bind_eq_ok.mpr ⟨rest, ih others (index + 1), rfl⟩⟩

theorem map_plain_taggedEach {values : List Node} (plain : values.all isPlain = true) :
    (taggedEach values).map Node.plain = values := by
  rw [List.all_eq_true] at plain
  rw [taggedEach_eq_map, List.map_map, List.map_congr_left fun value held => ?_, List.map_id]
  have own := plain value held
  cases value with
  | plain v => rfl
  | _ => cases own

mutual

/-- The tree of a formed description is loaded as the description, wherever it stands. -/
theorem loadAt_tagged : ∀ (node : Node), node.isNode = true →
    (∀ part ∈ node.parts, part.formed = true ∧ part.lossless = true) →
    ∀ path, loadAt (tagged node) path = .ok node
  | .nominal primitive notes, _, fit, path => by
      obtain ⟨formed, -⟩ := fit _ List.mem_cons_self
      obtain ⟨own, rfl⟩ : ∃ own, notes = .dict own := notes_of_formed formed
      obtain ⟨p, rfl⟩ : ∃ p, primitive = .primitive p := by
        cases primitive <;> first | exact ⟨_, rfl⟩ | cases formed
      rw [tagged, loadAt_tag rfl]
      exact bind_eq_ok.mpr ⟨p, Draft.primitive_eq_ok.mpr
        ⟨.str p.name, Members.get?_named _ _, Primitive.ofName?_name p⟩, rfl⟩
  | .constructor type fn notes, _, fit, path => by
      obtain ⟨⟨formed, lossless⟩, below⟩ := List.forall_mem_cons.mp fit
      obtain ⟨own, rfl⟩ : ∃ own, notes = .dict own := notes_of_formed formed
      obtain rfl : fn = .null := by
        cases fn <;> first | rfl | cases lossless
      have inner := loadAt_tagged type formed below (path ++ [.member "type"])
      rw [tagged, loadAt_tag rfl]
      exact bind_eq_ok.mpr ⟨type, Draft.child_eq_ok.mpr
        ⟨tagged type, Members.get?_named _ _, inner⟩, rfl⟩
  | .constrained type rule notes, _, fit, path => by
      obtain ⟨⟨formed, -⟩, below⟩ := List.forall_mem_cons.mp fit
      obtain ⟨typeFit, ruleFit⟩ := List.forall_mem_append.mp below
      obtain ⟨own, rfl⟩ : ∃ own, notes = .dict own := notes_of_formed formed
      obtain ⟨typeNode, ruleNode⟩ := Bool.and_eq_true_iff.mp formed
      have first := loadAt_tagged type typeNode typeFit (path ++ [.member "type"])
      have second := loadAt_tagged rule ruleNode ruleFit (path ++ [.member "rule"])
      rw [tagged, loadAt_tag rfl]
      exact bind_eq_ok.mpr ⟨type, Draft.child_eq_ok.mpr
        ⟨tagged type, Members.get?_named _ _, first⟩, bind_eq_ok.mpr ⟨rule, Draft.child_eq_ok.mpr
          ⟨tagged rule, Members.get?_named _ _, second⟩, rfl⟩⟩
  | .predicate name operand notes, _, fit, path => by
      obtain ⟨formed, lossless⟩ := fit _ List.mem_cons_self
      obtain ⟨own, rfl⟩ : ∃ own, notes = .dict own := notes_of_formed formed
      rw [tagged, loadAt_tag rfl]
      refine bind_eq_ok.mpr ⟨name, Draft.field_eq_ok.mpr (Members.get?_named _ _), ?_⟩
      rw [operand_of_tagged lossless (Members.get?_named _ _)]
      rfl
  | .sum types notes, _, fit, path => by
      obtain ⟨⟨formed, -⟩, below⟩ := List.forall_mem_cons.mp fit
      obtain ⟨own, rfl⟩ : ∃ own, notes = .dict own := notes_of_formed formed
      cases types with
      | nodes items =>
          cases items with
          | nil => cases formed
          | cons first rest =>
              have each := loadAt_taggedEach (first :: rest) (List.all_eq_true.mp formed) below
              rw [tagged, loadAt_tag rfl]
              refine bind_eq_ok.mpr ⟨first :: rest, Draft.alternatives_eq_ok.mpr
                ⟨taggedEach (first :: rest), Members.get?_named _ _, List.cons_ne_nil _ _, ?_⟩, rfl⟩
              exact loadItems_tagged each _ 0
      | value v => cases formed
  | .intersection left right notes, _, fit, path => by
      obtain ⟨⟨formed, -⟩, below⟩ := List.forall_mem_cons.mp fit
      obtain ⟨leftFit, rightFit⟩ := List.forall_mem_append.mp below
      obtain ⟨own, rfl⟩ : ∃ own, notes = .dict own := notes_of_formed formed
      obtain ⟨leftNode, rightNode⟩ := Bool.and_eq_true_iff.mp formed
      have first := loadAt_tagged left leftNode leftFit (path ++ [.member "left"])
      have second := loadAt_tagged right rightNode rightFit (path ++ [.member "right"])
      rw [tagged, loadAt_tag rfl]
      exact bind_eq_ok.mpr ⟨left, Draft.child_eq_ok.mpr
        ⟨tagged left, Members.get?_named _ _, first⟩, bind_eq_ok.mpr ⟨right, Draft.child_eq_ok.mpr
          ⟨tagged right, Members.get?_named _ _, second⟩, rfl⟩⟩
  | .mapping fields notes, _, fit, path => by
      obtain ⟨⟨formed, -⟩, below⟩ := List.forall_mem_cons.mp fit
      obtain ⟨own, rfl⟩ : ∃ own, notes = .dict own := notes_of_formed formed
      rw [tagged, loadAt_tag rfl]
      cases fields with
      | plain v =>
          -- null stands for no field set, in the tree as in the node
          obtain rfl : v = .null := by
            cases v <;> first | rfl | cases formed
          have absent : Members.get? "schema" (taggedMembers .mapping [("schema", tagged (plain .null))]
              (.dict own)) = some .null := Members.get?_named _ _
          simp only [Draft.node, absent]
          rfl
      | schema keys notes =>
          have inner := loadAt_tagged (schema keys notes) rfl below (path ++ [.member "schema"])
          have held : Members.get? "schema" (taggedMembers .mapping
              [("schema", tagged (schema keys notes))] (.dict own)) =
                some (tagged (schema keys notes)) := Members.get?_named _ _
          have present : (tagged (schema keys notes)).isNull = false := rfl
          simp only [Draft.node, held, Option.getD_some, present, Bool.false_eq_true, if_false]
          exact bind_eq_ok.mpr ⟨schema keys notes, Draft.schemaChild_eq_ok.mpr
            ⟨Draft.child_eq_ok.mpr ⟨_, held, inner⟩, rfl⟩, rfl⟩
      | _ => cases formed
  | .aggregate name fields notes, _, fit, path => by
      obtain ⟨⟨formed, -⟩, below⟩ := List.forall_mem_cons.mp fit
      obtain ⟨own, rfl⟩ : ∃ own, notes = .dict own := notes_of_formed formed
      have fieldSet : fields.isSchema = true := formed
      have isNode : fields.isNode = true := by
        rw [Node.isNode, isSchema_iff.mp fieldSet]
        rfl
      have inner := loadAt_tagged fields isNode below (path ++ [.member "schema"])
      rw [tagged, loadAt_tag rfl]
      refine bind_eq_ok.mpr ⟨fields, Draft.schemaChild_eq_ok.mpr ⟨Draft.child_eq_ok.mpr
        ⟨tagged fields, Members.get?_named _ _, inner⟩, fieldSet⟩, ?_⟩
      have named : Members.get? "name" (taggedMembers .aggregate
          [("name", name), ("schema", tagged fields)] (.dict own)) = some name :=
        Members.get?_named _ _
      rw [named]
      rfl
  | .array member notes, _, fit, path => by
      obtain ⟨⟨formed, -⟩, below⟩ := List.forall_mem_cons.mp fit
      obtain ⟨own, rfl⟩ : ∃ own, notes = .dict own := notes_of_formed formed
      have inner := loadAt_tagged member formed below (path ++ [.member "member"])
      rw [tagged, loadAt_tag rfl]
      exact bind_eq_ok.mpr ⟨member, Draft.child_eq_ok.mpr
        ⟨tagged member, Members.get?_named _ _, inner⟩, rfl⟩
  | .schema keys notes, _, fit, path => by
      obtain ⟨⟨formed, -⟩, below⟩ := List.forall_mem_cons.mp fit
      obtain ⟨own, rfl⟩ : ∃ own, notes = .dict own := notes_of_formed formed
      cases keys with
      | nodes items =>
          have fields := List.all_eq_true.mp formed
          have each := loadAt_taggedEach items (fun key held => by
            rw [Node.isNode, isKey_iff.mp (fields key held)]
            rfl) below
          rw [tagged, loadAt_tag rfl]
          exact bind_eq_ok.mpr ⟨items, Draft.keys_eq_ok.mpr (.inr ⟨taggedEach items,
            Members.get?_named _ _, Draft.loadKeys_eq_ok.mpr
              ⟨loadItems_tagged each _ 0, fields⟩⟩), rfl⟩
      | value v => cases formed
  | .key name type required notes, _, fit, path => by
      obtain ⟨⟨formed, -⟩, below⟩ := List.forall_mem_cons.mp fit
      obtain ⟨own, rfl⟩ : ∃ own, notes = .dict own := notes_of_formed formed
      obtain ⟨b, rfl⟩ : ∃ b, required = .bool b := by
        cases required <;> first | exact ⟨_, rfl⟩ | cases formed
      have inner := loadAt_tagged type formed below (path ++ [.member "type"])
      rw [tagged, loadAt_tag rfl]
      refine bind_eq_ok.mpr ⟨name, Draft.field_eq_ok.mpr (Members.get?_named _ _),
        bind_eq_ok.mpr ⟨type, Draft.child_eq_ok.mpr
          ⟨tagged type, Members.get?_named _ _, inner⟩, ?_⟩⟩
      have flagged : Members.get? "required" (taggedMembers .key [("name", name),
          ("type", tagged type), ("required", .bool (Value.bool b).truthy)] (.dict own)) =
            some (.bool b) := Members.get?_named _ _
      simp only [Draft.required, flagged]
      rfl
  | .enum type values notes, _, fit, path => by
      obtain ⟨⟨formed, -⟩, below⟩ := List.forall_mem_cons.mp fit
      obtain ⟨own, rfl⟩ : ∃ own, notes = .dict own := notes_of_formed formed
      cases values with
      | nodes items =>
          obtain ⟨isNode, plain⟩ := Bool.and_eq_true_iff.mp formed
          have inner := loadAt_tagged type isNode below (path ++ [.member "type"])
          have listed : Members.get? "values" (taggedMembers .enum [("type", tagged type),
              ("values", .list (taggedEach items))] (.dict own)) = some (.list (taggedEach items)) :=
            Members.get?_named _ _
          rw [tagged, loadAt_tag rfl]
          refine bind_eq_ok.mpr ⟨type, Draft.child_eq_ok.mpr
            ⟨tagged type, Members.get?_named _ _, inner⟩,
            bind_eq_ok.mpr ⟨taggedEach items, ?_, ?_⟩⟩
          · rw [Draft.values]
            simp only [taggedChildren, listed]
            rfl
          · rw [map_plain_taggedEach plain]
            rfl
      | value v => cases formed
  | .lazy _, isNode, _, _ | .bare _, isNode, _, _ | .plain _, isNode, _, _ => by cases isNode

/-- The same for each of some descriptions. -/
theorem loadAt_taggedEach : ∀ (nodes : List Node), (∀ node ∈ nodes, node.isNode = true) →
    (∀ part ∈ partsOfEach nodes, part.formed = true ∧ part.lossless = true) →
    ∀ node ∈ nodes, ∀ path, loadAt (tagged node) path = .ok node
  | [], _, _ => by simp
  | first :: rest, isNode, fit => by
      obtain ⟨firstNode, restNodes⟩ := List.forall_mem_cons.mp isNode
      obtain ⟨firstFit, restFit⟩ := List.forall_mem_append.mp fit
      exact List.forall_mem_cons.mpr
        ⟨loadAt_tagged first firstNode firstFit, loadAt_taggedEach rest restNodes restFit⟩

end

/-! ## What loading gives -/

/-- The operand that is read for a type predicate is never a text that names a primitive. -/
theorem lossless_operand (draft : Draft) (name notes : Value) :
    (predicate name (draft.operand name) notes).lossless = true := by
  simp only [lossless, Draft.operand]
  by_cases typed : name.equal (.str "type?") = true
  · simp only [typed, Bool.true_and]
    -- a text that names a primitive has become that primitive
    cases (Members.get? "operand" draft.members).getD .null with
    | str s =>
        simp only [Value.text?, Option.isSome_some, if_true, Value.toPrimitive?]
        cases unknown : Primitive.ofName? s with
        | none => simp [Value.namesPrimitive, unknown]
        | some p => rfl
    | primitive p => rfl
    | _ => rfl
  · simp [typed]

/-- A node that a draft becomes is lossless. -/
theorem lossless_of_drafted {part : Node} (drafted : part.Drafted) : part.lossless = true := by
  obtain ⟨members, path, kind, notes, -, -, made⟩ := drafted
  cases kind with
  | nominal | constructor | array | sum | schema | aggregate =>
      simp only [Draft.node, bind_eq_ok, pure_eq_ok] at made
      obtain ⟨inner, -, rfl⟩ := made
      rfl
  | constrained | intersection | key | enum =>
      simp only [Draft.node, bind_eq_ok, pure_eq_ok] at made
      obtain ⟨first, -, second, -, rfl⟩ := made
      rfl
  | predicate =>
      simp only [Draft.node, bind_eq_ok, pure_eq_ok] at made
      obtain ⟨name, -, rfl⟩ := made
      exact lossless_operand _ name notes
  | mapping =>
      simp only [Draft.node] at made
      split at made
      · obtain rfl := pure_eq_ok.mp made
        rfl
      · simp only [bind_eq_ok, pure_eq_ok] at made
        obtain ⟨fields, -, rfl⟩ := made
        rfl

/-! ## Writing and loading -/

/-- A formed description of lossless nodes is loaded back from its tree, node for node, and
so it equals what it was.  What a decoded tree loads as is such a description: writing it
and loading it once more changes nothing. -/
theorem load_tagged :
    (∀ {node : Node}, node.Formed → (∀ part ∈ node.parts, part.lossless = true) →
        load (tagged node) = .ok node ∧ node.equal node = true) ∧
      ∀ {tree : Value} {node : Node}, tree.isDecoded = true → load tree = .ok node →
        load (tagged node) = .ok node ∧ node.equal node = true := by
  have back {node : Node} (formed : node.Formed)
      (lossless : ∀ part ∈ node.parts, part.lossless = true) :
      load (tagged node) = .ok node ∧ node.equal node = true := by
    refine ⟨loadAt_tagged node formed.1 (fun part held => ?_) [], equal_self node⟩
    exact ⟨formed.2 part held, lossless part held⟩
  refine ⟨back, fun {tree node} decoded loaded => back (load_formed loaded) fun part held => ?_⟩
  exact lossless_of_drafted (drafted_of_loadAt tree decoded [] node loaded part held)

def voucherNode : Node :=
  aggregate (.str "voucher")
    (schema (.nodes [key (.str "issue")
      (sum (.nodes [
        constrained (nominal (.primitive .string) (.dict []))
          (intersection (predicate (.str "type?") (.primitive .date) (.dict []))
            (predicate (.str "type?") (.str "day") (.dict [])) (.dict [])) (.dict []),
        array (enum (nominal (.primitive .integer) (.dict [])) (.nodes [plain (.int 1), plain .null])
          (.dict [])) (.dict []),
        constructor (mapping (plain .null) (.dict [])) .null (.dict [])]) (.dict []))
      (.bool false) (.dict [(.str "title", .str "Issue")])]) (.dict [])) (.dict [])

/-- A tree that leaves out what it may: empty notes, no operand, no values, no fields. -/
def voucherTree : Value :=
  .dict (Members.named [("kind", .str "constrained"), ("meta", .bool false),
    ("type", .dict (Members.named [("kind", .str "enum"),
      ("type", .dict (Members.named [("kind", .str "mapping"),
        ("schema", .dict (Members.named [("kind", .str "schema")]))]))])),
    ("rule", .dict (Members.named [("kind", .str "predicate"), ("name", .str "type?"),
      ("operand", .str "dict")]))])

theorem load_tagged_voucher :
    (voucherNode.Formed ∧ (∀ part ∈ voucherNode.parts, part.lossless = true) ∧
        load (tagged voucherNode) = .ok voucherNode ∧ voucherNode.equal voucherNode = true) ∧
      ∃ node, load voucherTree = .ok node ∧ load (tagged node) = .ok node ∧
        node.equal node = true := by
  have formed : voucherNode.Formed := ⟨rfl, by decide⟩
  have lossless : ∀ part ∈ voucherNode.parts, part.lossless = true := by decide
  have loaded : load voucherTree = .ok (constrained
      (enum (mapping (schema (.nodes []) (.dict [])) (.dict [])) (.nodes []) (.dict []))
      (predicate (.str "type?") (.primitive .dict) (.dict [])) (.dict [])) := rfl
  exact ⟨⟨formed, lossless, load_tagged.1 formed lossless⟩, _, loaded, load_tagged.2 rfl loaded⟩

end Node

end Draftsman
