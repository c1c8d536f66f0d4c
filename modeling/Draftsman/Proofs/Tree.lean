/-
# Draftsman.Proofs.Tree -- the nodes of a description

What is asked of a description is asked of each of its nodes: `Node.parts` lists them,
the root first.  A value in the place of a node is none of them, and the values that an
enumeration keeps for reference are not looked at.

A description that comes from a tagged tree holds in every slot what the kind of the
node asks for (`Node.formed`): loading builds nothing else (`load_formed`).
-/
import Draftsman.Node.Loader
import Draftsman.Proofs.Steps

namespace Draftsman

set_option autoImplicit false

namespace Node

/-! ## Parts -/

mutual

/-- The nodes of a tree, each before those below it. -/
def parts : Node → List Node
  | nominal primitive notes => [nominal primitive notes]
  | constructor type fn notes => constructor type fn notes :: parts type
  | constrained type rule notes => constrained type rule notes :: (parts type ++ parts rule)
  | predicate name operand notes => [predicate name operand notes]
  | sum types notes => sum types notes :: partsOfSlot types
  | intersection left right notes =>
      intersection left right notes :: (parts left ++ parts right)
  | mapping fields notes => mapping fields notes :: parts fields
  | aggregate name fields notes => aggregate name fields notes :: parts fields
  | array member notes => array member notes :: parts member
  | schema keys notes => schema keys notes :: partsOfSlot keys
  | key name type required notes => key name type required notes :: parts type
  | enum type values notes => enum type values notes :: parts type
  | lazy notes => [lazy notes]
  | bare notes => [bare notes]
  | plain _ => []

def partsOfSlot : Children → List Node
  | .nodes items => partsOfEach items
  | .value _ => []

def partsOfEach : List Node → List Node
  | [] => []
  | node :: rest => parts node ++ partsOfEach rest

end

def isNode (node : Node) : Bool := node.kind?.isSome

theorem mem_partsOfEach {part : Node} {nodes : List Node} :
    part ∈ partsOfEach nodes ↔ ∃ node ∈ nodes, part ∈ node.parts := by
  induction nodes with
  | nil => simp [partsOfEach]
  | cons first rest ih => simp [partsOfEach, ih]

/-- Every node is a part of itself. -/
theorem mem_parts_self {node : Node} (known : node.isNode = true) : node ∈ node.parts := by
  cases node <;> simp_all [parts, isNode, kind?]

/-! ## Slots that hold what they should -/

def isPlain : Node → Bool
  | plain _ => true
  | _ => false

/-- Whether each slot of a node holds what the node's kind asks for. -/
def formed : Node → Bool
  | nominal (.primitive _) (.dict _) => true
  | constructor type _ (.dict _) => type.isNode
  | constrained type rule (.dict _) => type.isNode && rule.isNode
  | predicate _ _ (.dict _) => true
  | sum (.nodes (first :: rest)) (.dict _) => (first :: rest).all isNode
  | intersection left right (.dict _) => left.isNode && right.isNode
  | mapping (plain .null) (.dict _) => true
  | mapping fields (.dict _) => fields.isSchema
  | aggregate _ fields (.dict _) => fields.isSchema
  | array member (.dict _) => member.isNode
  | schema (.nodes keys) (.dict _) => keys.all isKey
  | key _ type (.bool _) (.dict _) => type.isNode
  | enum type (.nodes values) (.dict _) => type.isNode && values.all isPlain
  | _ => false

/-- The notes of a formed node are a dictionary. -/
theorem notes_of_formed {node : Node} (formed : node.formed = true) :
    ∃ own, node.notes = .dict own := by
  unfold Node.formed at formed
  split at formed
  all_goals first | exact ⟨_, rfl⟩ | cases formed

/-- A tree of which every part is formed. -/
def Formed (tree : Node) : Prop := tree.isNode = true ∧ ∀ part ∈ tree.parts, part.formed = true

/-! ## Loading -/

/-- A reader that gives formed trees only. -/
def LoadAt.Sound (read : LoadAt) : Prop := ∀ path node, read path = .ok node → node.Formed

/-- An offer of formed trees only. -/
structure Offer.Sound (offer : Offer) : Prop where
  node : LoadAt.Sound offer.node
  items : ∀ items, offer.items? = some items → ∀ item ∈ items, LoadAt.Sound item

theorem Offer.mem_of_find? {name : String} {offers : List (Value × Offer)} {offer : Offer}
    (found : Offer.find? name offers = some offer) : ∃ key, (key, offer) ∈ offers := by
  induction offers with
  | nil => simp [Offer.find?] at found
  | cons first rest ih =>
      obtain ⟨key, own⟩ := first
      simp only [Offer.find?] at found
      split at found
      · obtain rfl : own = offer := Option.some.inj found
        exact ⟨key, List.mem_cons_self⟩
      · obtain ⟨other, held⟩ := ih found
        exact ⟨other, List.mem_cons_of_mem _ held⟩

namespace Draft

variable {draft : Draft} {notes : Members}

theorem child_formed (sound : ∀ offer ∈ draft.offers, offer.2.Sound) {name : String} {node : Node}
    (loaded : draft.child name = .ok node) : node.Formed := by
  simp only [child, offer, bind_eq_ok] at loaded
  obtain ⟨offer, found, loaded⟩ := loaded
  split at found
  · rename_i own there
    obtain rfl : own = offer := Except.ok.inj found
    obtain ⟨key, held⟩ := Offer.mem_of_find? there
    exact (sound _ held).node _ _ loaded
  · cases found

theorem schemaChild_formed (sound : ∀ offer ∈ draft.offers, offer.2.Sound) {node : Node}
    (loaded : draft.schemaChild = .ok node) : node.isSchema = true ∧ node.Formed := by
  simp only [schemaChild, bind_eq_ok] at loaded
  obtain ⟨found, child, loaded⟩ := loaded
  split at loaded
  · rename_i schema
    obtain rfl := pure_eq_ok.mp loaded
    exact ⟨schema, child_formed sound child⟩
  · cases loaded

theorem loadItems_formed {path : Path} {items : List LoadAt}
    (sound : ∀ item ∈ items, LoadAt.Sound item) {index : Nat} {nodes : List Node}
    (loaded : loadItems path index items = .ok nodes) :
    nodes.length = items.length ∧ ∀ node ∈ nodes, node.Formed := by
  induction items generalizing index nodes with
  | nil =>
      obtain rfl : [] = nodes := Except.ok.inj loaded
      simp
  | cons item rest ih =>
      simp only [loadItems, bind_eq_ok, pure_eq_ok] at loaded
      obtain ⟨first, own, others, later, rfl⟩ := loaded
      obtain ⟨itemSound, restSound⟩ := List.forall_mem_cons.mp sound
      obtain ⟨length, formed⟩ := ih restSound later
      exact ⟨by simp [length], List.forall_mem_cons.mpr ⟨itemSound _ _ own, formed⟩⟩

/-- Items are loaded as fields if they are loaded and all of them are fields. -/
theorem loadKeys_eq_ok {path : Path} {items : List LoadAt} {index : Nat} {nodes : List Node} :
    loadKeys path index items = .ok nodes ↔
      loadItems path index items = .ok nodes ∧ ∀ node ∈ nodes, node.isKey = true := by
  induction items generalizing index nodes with
  | nil =>
      refine ⟨fun loaded => ⟨loaded, ?_⟩, And.left⟩
      obtain rfl : [] = nodes := Except.ok.inj loaded
      simp
  | cons item rest ih =>
      simp only [loadKeys, loadItems, bind_eq_ok, pure_eq_ok]
      constructor
      · rintro ⟨first, own, loaded⟩
        split at loaded
        · rename_i isKey
          simp only [bind_eq_ok, pure_eq_ok] at loaded
          obtain ⟨others, later, rfl⟩ := loaded
          obtain ⟨later, fields⟩ := ih.mp later
          exact ⟨⟨first, own, others, later, rfl⟩, List.forall_mem_cons.mpr ⟨isKey, fields⟩⟩
        · cases loaded
      · rintro ⟨⟨first, own, others, later, rfl⟩, fields⟩
        obtain ⟨isKey, fields⟩ := List.forall_mem_cons.mp fields
        refine ⟨first, own, ?_⟩
        rw [if_pos isKey]
        exact bind_eq_ok.mpr ⟨others, ih.mpr ⟨later, fields⟩, rfl⟩

theorem alternatives_formed (sound : ∀ offer ∈ draft.offers, offer.2.Sound) {nodes : List Node}
    (loaded : draft.alternatives = .ok nodes) : nodes ≠ [] ∧ ∀ node ∈ nodes, node.Formed := by
  simp only [alternatives, offer, bind_eq_ok] at loaded
  obtain ⟨offer, found, loaded⟩ := loaded
  split at found
  · rename_i own there
    obtain rfl : own = offer := Except.ok.inj found
    obtain ⟨key, held⟩ := Offer.mem_of_find? there
    split at loaded
    · rename_i first rest items
      obtain ⟨length, formed⟩ := loadItems_formed ((sound _ held).items _ items) loaded
      exact ⟨List.ne_nil_of_length_pos (by simp [length]), formed⟩
    · cases loaded
  · cases found

theorem keys_formed (sound : ∀ offer ∈ draft.offers, offer.2.Sound) {nodes : List Node}
    (loaded : draft.keys = .ok nodes) : ∀ node ∈ nodes, node.isKey = true ∧ node.Formed := by
  simp only [keys] at loaded
  split at loaded
  · obtain rfl : [] = nodes := Except.ok.inj loaded
    simp
  · rename_i offer there
    obtain ⟨key, held⟩ := Offer.mem_of_find? there
    split at loaded
    · rename_i items listed
      obtain ⟨loaded, fields⟩ := loadKeys_eq_ok.mp loaded
      obtain ⟨-, formed⟩ := loadItems_formed ((sound _ held).items _ listed) loaded
      exact fun node there => ⟨fields node there, formed node there⟩
    · cases loaded

/-- The node that a draft becomes is formed. -/
theorem node_formed (sound : ∀ offer ∈ draft.offers, offer.2.Sound) {node : Node}
    (loaded : draft.node (.dict notes) = .ok node) : node.Formed := by
  -- the node itself is formed, and its other parts are parts of the nodes in its slots
  have below {nodes : List Node} (formed : ∀ node ∈ nodes, node.Formed) :
      ∀ part ∈ partsOfEach nodes, part.formed = true := by
    intro part held
    obtain ⟨node, there, held⟩ := mem_partsOfEach.mp held
    exact (formed node there).2 part held
  unfold Draft.node at loaded
  split at loaded
  · -- a primitive type
    simp only [bind_eq_ok, pure_eq_ok] at loaded
    obtain ⟨p, -, rfl⟩ := loaded
    exact ⟨rfl, List.forall_mem_singleton.mpr rfl⟩
  · -- a type whose values pass through a function
    simp only [bind_eq_ok, pure_eq_ok] at loaded
    obtain ⟨type, child, rfl⟩ := loaded
    obtain ⟨isNode, formed⟩ := child_formed sound child
    exact ⟨rfl, List.forall_mem_cons.mpr ⟨isNode, formed⟩⟩
  · -- a type with a rule
    simp only [bind_eq_ok, pure_eq_ok] at loaded
    obtain ⟨type, child, rule, child', rfl⟩ := loaded
    obtain ⟨isNode, formed⟩ := child_formed sound child
    obtain ⟨isNode', formed'⟩ := child_formed sound child'
    exact ⟨rfl, List.forall_mem_cons.mpr
      ⟨Bool.and_eq_true_iff.mpr ⟨isNode, isNode'⟩, List.forall_mem_append.mpr ⟨formed, formed'⟩⟩⟩
  · -- a constraint
    simp only [bind_eq_ok, pure_eq_ok] at loaded
    obtain ⟨name, -, rfl⟩ := loaded
    exact ⟨rfl, List.forall_mem_singleton.mpr rfl⟩
  · -- a union
    simp only [bind_eq_ok, pure_eq_ok] at loaded
    obtain ⟨types, children, rfl⟩ := loaded
    obtain ⟨filled, formed⟩ := alternatives_formed sound children
    obtain ⟨first, rest, rfl⟩ := List.exists_cons_of_ne_nil filled
    refine ⟨rfl, List.forall_mem_cons.mpr ⟨?_, below formed⟩⟩
    exact List.all_eq_true.mpr fun node held => (formed node held).1
  · -- both of two types
    simp only [bind_eq_ok, pure_eq_ok] at loaded
    obtain ⟨left, child, right, child', rfl⟩ := loaded
    obtain ⟨isNode, formed⟩ := child_formed sound child
    obtain ⟨isNode', formed'⟩ := child_formed sound child'
    exact ⟨rfl, List.forall_mem_cons.mpr
      ⟨Bool.and_eq_true_iff.mpr ⟨isNode, isNode'⟩, List.forall_mem_append.mpr ⟨formed, formed'⟩⟩⟩
  · -- an object type, without a field set or with one
    split at loaded
    · obtain rfl := pure_eq_ok.mp loaded
      exact ⟨rfl, List.forall_mem_singleton.mpr rfl⟩
    · simp only [bind_eq_ok, pure_eq_ok] at loaded
      obtain ⟨fields, child, rfl⟩ := loaded
      obtain ⟨isSchema, -, formed⟩ := schemaChild_formed sound child
      refine ⟨rfl, List.forall_mem_cons.mpr ⟨?_, formed⟩⟩
      cases fields with
      | schema keys notes => rfl
      | _ => cases isSchema
  · -- a named object type
    simp only [bind_eq_ok, pure_eq_ok] at loaded
    obtain ⟨fields, child, rfl⟩ := loaded
    obtain ⟨isSchema, -, formed⟩ := schemaChild_formed sound child
    exact ⟨rfl, List.forall_mem_cons.mpr ⟨isSchema, formed⟩⟩
  · -- a list
    simp only [bind_eq_ok, pure_eq_ok] at loaded
    obtain ⟨member, child, rfl⟩ := loaded
    obtain ⟨isNode, formed⟩ := child_formed sound child
    exact ⟨rfl, List.forall_mem_cons.mpr ⟨isNode, formed⟩⟩
  · -- a field set
    simp only [bind_eq_ok, pure_eq_ok] at loaded
    obtain ⟨keys, children, rfl⟩ := loaded
    have formed := keys_formed sound children
    refine ⟨rfl, List.forall_mem_cons.mpr ⟨?_, below fun node held => (formed node held).2⟩⟩
    exact List.all_eq_true.mpr fun node held => (formed node held).1
  · -- a field
    simp only [bind_eq_ok, pure_eq_ok] at loaded
    obtain ⟨name, -, type, child, rfl⟩ := loaded
    obtain ⟨isNode, formed⟩ := child_formed sound child
    exact ⟨rfl, List.forall_mem_cons.mpr ⟨isNode, formed⟩⟩
  · -- an enumeration
    simp only [bind_eq_ok, pure_eq_ok] at loaded
    obtain ⟨type, child, values, -, rfl⟩ := loaded
    obtain ⟨isNode, formed⟩ := child_formed sound child
    have plain : (values.map Node.plain).all isPlain = true := by simp [isPlain]
    exact ⟨rfl, List.forall_mem_cons.mpr ⟨Bool.and_eq_true_iff.mpr ⟨isNode, plain⟩, formed⟩⟩

end Draft

theorem loadNotes_dict {members : Members} {path : Path} {notes : Value}
    (loaded : loadNotes members path = .ok notes) : ∃ own, notes = .dict own := by
  simp only [loadNotes] at loaded
  split at loaded
  · exact ⟨[], (Except.ok.inj loaded).symm⟩
  · split at loaded
    · split at loaded
      · exact ⟨_, (Except.ok.inj loaded).symm⟩
      · cases loaded
    · exact ⟨[], (Except.ok.inj loaded).symm⟩

theorem build_formed {members : Members} {offers : List (Value × Offer)}
    (sound : ∀ offer ∈ offers, offer.2.Sound) {path : Path} {node : Node}
    (loaded : build members offers path = .ok node) : node.Formed := by
  simp only [build] at loaded
  split at loaded
  · cases loaded
  · split at loaded
    · split at loaded
      · cases loaded
      · obtain ⟨notes, read, loaded⟩ := bind_eq_ok.mp loaded
        obtain ⟨own, rfl⟩ := loadNotes_dict read
        exact Draft.node_formed sound loaded
    · cases loaded

mutual

theorem loadAt_sound : ∀ tree : Value, LoadAt.Sound (loadAt tree)
  | .dict members => fun _ _ loaded => build_formed (offers_sound members) loaded
  | .null | .bool _ | .int _ | .float _ | .str _ | .decimal _ | .primitive _ | .host _
  | .pattern _ | .list _ | .tuple _ | .set _ => fun _ _ loaded => by cases loaded

theorem itemOffers_sound : ∀ (tree : Value) (items : List LoadAt), itemOffers? tree = some items →
    ∀ item ∈ items, LoadAt.Sound item
  | .list values, _, listed => Option.some.inj listed ▸ loadEach_sound values
  | .null, _, listed | .bool _, _, listed | .int _, _, listed | .float _, _, listed
  | .str _, _, listed | .decimal _, _, listed | .primitive _, _, listed | .host _, _, listed
  | .pattern _, _, listed | .tuple _, _, listed | .set _, _, listed | .dict _, _, listed => by
      cases listed

theorem loadEach_sound : ∀ (values : List Value), ∀ item ∈ loadEach values, LoadAt.Sound item
  | [] => by simp [loadEach]
  | value :: rest => by
      rw [loadEach]
      exact List.forall_mem_cons.mpr ⟨loadAt_sound value, loadEach_sound rest⟩

theorem offers_sound : ∀ (members : List (Value × Value)), ∀ offer ∈ offers members, offer.2.Sound
  | [] => by simp [offers]
  | (name, value) :: rest => by
      rw [offers]
      exact List.forall_mem_cons.mpr
        ⟨⟨loadAt_sound value, itemOffers_sound value⟩, offers_sound rest⟩

end

/-- A loaded description holds in every slot what the kind of the node asks for. -/
theorem load_formed {tree : Value} {node : Node} (loaded : load tree = .ok node) : node.Formed :=
  loadAt_sound tree [] node loaded

end Node

end Draftsman
