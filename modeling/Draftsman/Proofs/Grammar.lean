/-
# Draftsman.Proofs.Grammar -- the trees that are loaded

The tagged trees have a grammar of twelve productions, one for each kind of node
(`Tagged`).  A production asks for a head, which is the kind and perhaps notes
(`Tagged.Head`), and for the fields of its kind; it says nothing of other members.

The main result is `load_iff_tagged`: a decoded value is loaded exactly if it is derived
from the grammar.  Both halves go through what each field of a draft loads as
(`Draft.child_eq_ok` and the lemmas after it):

* `tagged_of_loadAt` reads the production off the kind of the node that is built;
* `loadAt_of_tagged` builds the node by induction on the derivation.

A node is of the kind that its tree names (`loadAt_kind`), which is what the productions
for object types and field sets ask of their fields.
-/
import Draftsman.Node.Loader
import Draftsman.Proofs.Dictionary
import Draftsman.Proofs.Steps
import Draftsman.Proofs.Tree

namespace Draftsman

set_option autoImplicit false

/-! ## Decoded values -/

namespace Value

mutual

/-- Whether a value is one that decoding a text gives: numbers of any size, texts, lists,
and dictionaries with texts for keys. -/
def isDecoded : Value → Bool
  | null | bool _ | int _ | float _ | str _ => true
  | list items => areDecoded items
  | dict members => membersAreDecoded members
  | _ => false

def areDecoded : List Value → Bool
  | [] => true
  | v :: rest => isDecoded v && areDecoded rest

def membersAreDecoded : List (Value × Value) → Bool
  | [] => true
  | (.str _, v) :: rest => isDecoded v && membersAreDecoded rest
  | _ :: _ => false

end

theorem isDecoded_of_mem {items : List Value} (decoded : areDecoded items = true) :
    ∀ item ∈ items, item.isDecoded = true := by
  induction items with
  | nil => simp
  | cons first rest ih =>
      rw [areDecoded, Bool.and_eq_true] at decoded
      exact List.forall_mem_cons.mpr ⟨decoded.1, ih decoded.2⟩

theorem isDecoded_of_get? {members : Members} {name : String} {v : Value}
    (decoded : membersAreDecoded members = true) (found : Members.get? name members = some v) :
    v.isDecoded = true := by
  induction members with
  | nil => simp at found
  | cons member rest ih =>
      obtain ⟨key, value⟩ := member
      cases key with
      | str own =>
          rw [membersAreDecoded, Bool.and_eq_true] at decoded
          rw [Members.get?_cons] at found
          by_cases same : (Value.str own).text? = some name
          · rw [if_pos same] at found
            exact Option.some.inj found ▸ decoded.1
          · rw [if_neg same] at found
            exact ih decoded.2 found
      | _ => simp [membersAreDecoded] at decoded

/-- The texts among decoded values are no primitives. -/
theorem eq_str_of_text? {v : Value} {name : String} (decoded : v.isDecoded = true)
    (text : v.text? = some name) : v = .str name := by
  cases v with
  | str s => rw [Option.some.inj text]
  | primitive p => simp [isDecoded] at decoded
  | _ => simp [text?] at text

end Value

namespace Node

/-! ## The grammar -/

/-- What may stand for the values of an enumeration: nothing, a list, a text or a
dictionary. -/
def offersValues : Option Value → Bool
  | none | some (.list _) | some (.str _) | some (.dict _) => true
  | some _ => false

/-- What every tagged tree has: its kind, and notes only if they are a dictionary or count
as false. -/
structure Tagged.Head (kind : NodeKind) (members : Members) : Prop where
  kind : Members.get? "kind" members = some (.str kind.name)
  notes : ∀ v, Members.get? "meta" members = some v → v.truthy = false ∨ ∃ own, v = .dict own

/-- A dictionary that names a kind. -/
def Tagged.Names (kind : NodeKind) (tree : Value) : Prop :=
  ∃ members, tree = .dict members ∧ Members.get? "kind" members = some (.str kind.name)

/-- The tagged trees, one production for each kind; those with an optional field have two.
Members that a production does not name may be there or not. -/
inductive Tagged : Value → Prop where
  | nominal {members : Members} {p : Primitive} (head : Tagged.Head .nominal members)
      (primitive : Members.get? "primitive" members = some (.str p.name)) : Tagged (.dict members)
  | constructor {members : Members} {type : Value} (head : Tagged.Head .constructor members)
      (held : Members.get? "type" members = some type) (below : Tagged type) :
      Tagged (.dict members)
  | constrained {members : Members} {type rule : Value} (head : Tagged.Head .constrained members)
      (held : Members.get? "type" members = some type) (below : Tagged type)
      (held' : Members.get? "rule" members = some rule) (below' : Tagged rule) :
      Tagged (.dict members)
  | predicate {members : Members} {name : Value} (head : Tagged.Head .predicate members)
      (named : Members.get? "name" members = some name) : Tagged (.dict members)
  | sum {members : Members} {types : List Value} (head : Tagged.Head .sum members)
      (held : Members.get? "types" members = some (.list types)) (filled : types ≠ [])
      (below : ∀ type ∈ types, Tagged type) : Tagged (.dict members)
  | intersection {members : Members} {left right : Value}
      (head : Tagged.Head .intersection members)
      (held : Members.get? "left" members = some left) (below : Tagged left)
      (held' : Members.get? "right" members = some right) (below' : Tagged right) :
      Tagged (.dict members)
  | mapping {members : Members} (head : Tagged.Head .mapping members)
      (absent : (Members.get? "schema" members).getD .null = .null) : Tagged (.dict members)
  | mappingOf {members : Members} {fields : Value} (head : Tagged.Head .mapping members)
      (held : Members.get? "schema" members = some fields) (names : Tagged.Names .schema fields)
      (below : Tagged fields) : Tagged (.dict members)
  | aggregate {members : Members} {fields : Value} (head : Tagged.Head .aggregate members)
      (held : Members.get? "schema" members = some fields) (names : Tagged.Names .schema fields)
      (below : Tagged fields) : Tagged (.dict members)
  | array {members : Members} {member : Value} (head : Tagged.Head .array members)
      (held : Members.get? "member" members = some member) (below : Tagged member) :
      Tagged (.dict members)
  | schema {members : Members} (head : Tagged.Head .schema members)
      (absent : Members.get? "keys" members = none) : Tagged (.dict members)
  | schemaOf {members : Members} {keys : List Value} (head : Tagged.Head .schema members)
      (held : Members.get? "keys" members = some (.list keys))
      (names : ∀ key ∈ keys, Tagged.Names .key key) (below : ∀ key ∈ keys, Tagged key) :
      Tagged (.dict members)
  | key {members : Members} {name type : Value} (head : Tagged.Head .key members)
      (named : Members.get? "name" members = some name)
      (held : Members.get? "type" members = some type) (below : Tagged type) :
      Tagged (.dict members)
  | enum {members : Members} {type : Value} (head : Tagged.Head .enum members)
      (held : Members.get? "type" members = some type) (below : Tagged type)
      (values : offersValues (Members.get? "values" members) = true) : Tagged (.dict members)

/-! ## What a draft of a dictionary reads -/

/-- The members of a dictionary offer what they load as. -/
theorem Offer.find?_offers (name : String) (members : Members) :
    Offer.find? name (offers members) =
      (Members.get? name members).map fun v => ⟨loadAt v, itemOffers? v⟩ := by
  induction members with
  | nil => rfl
  | cons member rest ih =>
      obtain ⟨key, value⟩ := member
      simp only [Members.get?] at ih
      simp only [offers, Offer.find?, Members.get?, Members.lookup]
      split
      · rfl
      · exact ih

/-- Only a list offers items. -/
theorem itemOffers?_eq_some {v : Value} {items : List LoadAt} :
    itemOffers? v = some items ↔ ∃ values, v = .list values ∧ loadEach values = items := by
  cases v <;> simp [itemOffers?]

/-- The draft of a dictionary that stands at a place. -/
abbrev Draft.ofMembers (members : Members) (path : Path) (kind : NodeKind) : Draft :=
  ⟨members, Node.offers members, path, kind⟩

namespace Draft

variable {members : Members} {path : Path} {kind : NodeKind}

theorem offer_eq_ok {name : String} {offer : Offer} :
    (ofMembers members path kind).offer name = .ok offer ↔
      ∃ v, Members.get? name members = some v ∧ ⟨loadAt v, itemOffers? v⟩ = offer := by
  rw [Draft.offer, Offer.find?_offers]
  cases Members.get? name members <;> simp

theorem field_eq_ok {name : String} {v : Value} :
    (ofMembers members path kind).field name = .ok v ↔ Members.get? name members = some v := by
  rw [Draft.field]
  cases Members.get? name members <;> simp

/-- The node of a field is what its value loads as. -/
theorem child_eq_ok {name : String} {node : Node} :
    (ofMembers members path kind).child name = .ok node ↔
      ∃ v, Members.get? name members = some v ∧ loadAt v (path ++ [.member name]) = .ok node := by
  simp only [Draft.child, bind_eq_ok, offer_eq_ok]
  constructor
  · rintro ⟨offer, ⟨v, found, rfl⟩, loaded⟩
    exact ⟨v, found, loaded⟩
  · rintro ⟨v, found, loaded⟩
    exact ⟨_, ⟨v, found, rfl⟩, loaded⟩

theorem schemaChild_eq_ok {node : Node} :
    (ofMembers members path kind).schemaChild = .ok node ↔
      (ofMembers members path kind).child "schema" = .ok node ∧ node.isSchema = true := by
  simp only [Draft.schemaChild, bind_eq_ok]
  constructor
  · rintro ⟨found, child, chosen⟩
    by_cases schema : found.isSchema = true
    · rw [if_pos schema] at chosen
      obtain rfl := pure_eq_ok.mp chosen
      exact ⟨child, schema⟩
    · rw [if_neg schema] at chosen
      cases chosen
  · rintro ⟨child, schema⟩
    exact ⟨node, child, by rw [if_pos schema]; rfl⟩

theorem primitive_eq_ok {p : Primitive} :
    (ofMembers members path kind).primitive = .ok p ↔
      ∃ v, Members.get? "primitive" members = some v ∧ v.toPrimitive? = some p := by
  simp only [Draft.primitive, bind_eq_ok, field_eq_ok]
  constructor
  · rintro ⟨v, found, chosen⟩
    cases named : v.toPrimitive? with
    | none => simp [named] at chosen
    | some q =>
        rw [named] at chosen
        exact ⟨v, found, named.trans (congrArg some (pure_eq_ok.mp chosen))⟩
  · rintro ⟨v, found, named⟩
    exact ⟨v, found, by rw [named]; rfl⟩

theorem alternatives_eq_ok {nodes : List Node} :
    (ofMembers members path kind).alternatives = .ok nodes ↔
      ∃ types, Members.get? "types" members = some (.list types) ∧ types ≠ [] ∧
        loadItems (path ++ [.member "types"]) 0 (loadEach types) = .ok nodes := by
  simp only [Draft.alternatives, bind_eq_ok, offer_eq_ok]
  constructor
  · rintro ⟨offer, ⟨v, found, rfl⟩, chosen⟩
    split at chosen
    · rename_i first rest listed
      obtain ⟨types, rfl, each⟩ := itemOffers?_eq_some.mp listed
      refine ⟨types, found, ?_, by rw [each]; exact chosen⟩
      rintro rfl
      cases each
    · cases chosen
  · rintro ⟨types, found, filled, loaded⟩
    obtain ⟨first, rest, rfl⟩ := List.exists_cons_of_ne_nil filled
    exact ⟨_, ⟨_, found, rfl⟩, loaded⟩

theorem keys_eq_ok {nodes : List Node} :
    (ofMembers members path kind).keys = .ok nodes ↔
      (Members.get? "keys" members = none ∧ nodes = []) ∨
        ∃ keys, Members.get? "keys" members = some (.list keys) ∧
          loadKeys (path ++ [.member "keys"]) 0 (loadEach keys) = .ok nodes := by
  rw [Draft.keys, Offer.find?_offers]
  cases found : Members.get? "keys" members with
  | none => simp [eq_comm]
  | some v =>
      cases v with
      | list keys => simp [itemOffers?, Draft.place]
      | _ => simp [itemOffers?]

theorem values_isOk :
    (∃ items, (ofMembers members path kind).values = .ok items) ↔
      ∀ v, Members.get? "values" members = some v → v.items?.isSome = true := by
  rw [Draft.values]
  cases Members.get? "values" members with
  | none => simp
  | some v => cases offered : v.items? <;> simp [offered]

/-- A draft becomes a node of the kind that it names, with the notes that it is given. -/
theorem kind_notes_of_node {notes : Value} {node : Node}
    (loaded : (ofMembers members path kind).node notes = .ok node) :
    node.kind? = some kind ∧ node.notes = notes := by
  cases kind with
  | nominal | predicate | constructor | array | sum | schema | aggregate =>
      simp only [Draft.node, bind_eq_ok, pure_eq_ok] at loaded
      obtain ⟨-, -, rfl⟩ := loaded
      exact ⟨rfl, rfl⟩
  | constrained | intersection | key | enum =>
      simp only [Draft.node, bind_eq_ok, pure_eq_ok] at loaded
      obtain ⟨-, -, -, -, rfl⟩ := loaded
      exact ⟨rfl, rfl⟩
  | mapping =>
      simp only [Draft.node] at loaded
      split at loaded
      · obtain rfl := pure_eq_ok.mp loaded
        exact ⟨rfl, rfl⟩
      · simp only [bind_eq_ok, pure_eq_ok] at loaded
        obtain ⟨-, -, rfl⟩ := loaded
        exact ⟨rfl, rfl⟩

theorem node_kind {notes : Value} {node : Node}
    (loaded : (ofMembers members path kind).node notes = .ok node) : node.kind? = some kind :=
  (kind_notes_of_node loaded).1

/-- Each of several values is loaded, if all of them are, as one of the nodes. -/
theorem loadAt_of_loadItems {path : Path} {values : List Value} {index : Nat} {nodes : List Node}
    (loaded : loadItems path index (loadEach values) = .ok nodes) :
    ∀ value ∈ values, ∃ path, ∃ node ∈ nodes, loadAt value path = .ok node := by
  induction values generalizing index nodes with
  | nil => simp
  | cons first rest ih =>
      simp only [loadEach, loadItems, bind_eq_ok, pure_eq_ok] at loaded
      obtain ⟨node, own, others, later, rfl⟩ := loaded
      refine List.forall_mem_cons.mpr ⟨⟨_, node, List.mem_cons_self, own⟩, fun value held => ?_⟩
      obtain ⟨path, other, there, read⟩ := ih later value held
      exact ⟨path, other, List.mem_cons_of_mem _ there, read⟩

theorem loadItems_of_loadAt {values : List Value}
    (each : ∀ value ∈ values, ∀ path, ∃ node, loadAt value path = .ok node) (path : Path)
    (index : Nat) : ∃ nodes, loadItems path index (loadEach values) = .ok nodes := by
  induction values generalizing index with
  | nil => exact ⟨[], rfl⟩
  | cons first rest ih =>
      obtain ⟨own, others⟩ := List.forall_mem_cons.mp each
      obtain ⟨node, loaded⟩ := own (path ++ [.item index])
      obtain ⟨nodes, later⟩ := ih others (index + 1)
      exact ⟨node :: nodes, bind_eq_ok.mpr ⟨node, loaded, bind_eq_ok.mpr ⟨nodes, later, rfl⟩⟩⟩

/-- Each of several nodes is what one of the values is loaded as. -/
theorem mem_of_loadItems {path : Path} {values : List Value} {index : Nat} {nodes : List Node}
    (loaded : loadItems path index (loadEach values) = .ok nodes) :
    ∀ node ∈ nodes, ∃ value ∈ values, ∃ path, loadAt value path = .ok node := by
  induction values generalizing index nodes with
  | nil =>
      obtain rfl := Except.ok.inj loaded
      simp
  | cons value rest ih =>
      simp only [loadEach, loadItems, bind_eq_ok, pure_eq_ok] at loaded
      obtain ⟨first, own, others, later, rfl⟩ := loaded
      refine List.forall_mem_cons.mpr ⟨⟨value, List.mem_cons_self, _, own⟩, fun node held => ?_⟩
      obtain ⟨other, there, read⟩ := ih later node held
      exact ⟨other, List.mem_cons_of_mem _ there, read⟩

theorem loadKeys_of_loadAt {values : List Value}
    (each : ∀ value ∈ values, ∀ path, ∃ node, loadAt value path = .ok node ∧ node.isKey = true)
    (path : Path) (index : Nat) : ∃ nodes, loadKeys path index (loadEach values) = .ok nodes := by
  obtain ⟨nodes, loaded⟩ := loadItems_of_loadAt
    (fun value held path => (each value held path).imp fun _ => And.left) path index
  refine ⟨nodes, loadKeys_eq_ok.mpr ⟨loaded, fun node there => ?_⟩⟩
  obtain ⟨value, held, path, own⟩ := mem_of_loadItems loaded node there
  obtain ⟨field, own', isKey⟩ := each value held path
  exact Except.ok.inj (own.symm.trans own') ▸ isKey

end Draft

/-! ## What a dictionary is loaded as -/

/-- Notes are read if they are a dictionary or count as false. -/
theorem loadNotes_isOk {members : Members} {path : Path} :
    (∃ notes, loadNotes members path = .ok notes) ↔
      ∀ v, Members.get? "meta" members = some v → v.truthy = false ∨ ∃ own, v = .dict own := by
  rw [loadNotes]
  cases Members.get? "meta" members with
  | none => simp
  | some v =>
      cases counts : v.truthy with
      | false => simp [counts]
      | true =>
          cases v with
          | dict own => simp [counts]
          | _ => simp [counts]

/-- A dictionary that names a kind becomes the node of a draft of that kind. -/
theorem loadAt_of_names {members : Members} {kind : NodeKind}
    (named : Members.get? "kind" members = some (.str kind.name)) (path : Path) :
    loadAt (.dict members) path =
      (do
        let notes ← loadNotes members path
        (Draft.ofMembers members path kind).node notes) := by
  have found : (Value.str kind.name).text?.bind NodeKind.ofName? = some kind :=
    NodeKind.ofName?_name kind
  simp only [loadAt, build, named, Value.isKey, found, if_true]

/-- What is loaded names a kind, may have notes, and is the node of a draft. -/
theorem loadAt_eq_ok {members : Members} {path : Path} {node : Node}
    (decoded : Value.membersAreDecoded members = true)
    (loaded : loadAt (.dict members) path = .ok node) :
    ∃ kind notes, Tagged.Head kind members ∧
      (Draft.ofMembers members path kind).node notes = .ok node := by
  have built := loaded
  simp only [loadAt, build] at built
  cases there : Members.get? "kind" members with
  | none => simp [there] at built
  | some v =>
      have whole : v.isKey = true := by
        by_contra other
        simp [there, other] at built
      cases known : v.text?.bind NodeKind.ofName? with
      | none => simp [there, whole, known] at built
      | some kind =>
          obtain ⟨text, named, found⟩ := Option.bind_eq_some_iff.mp known
          obtain rfl := NodeKind.name_of_ofName? found
          obtain rfl := Value.eq_str_of_text? (Value.isDecoded_of_get? decoded there) named
          rw [loadAt_of_names there, bind_eq_ok] at loaded
          obtain ⟨notes, read, made⟩ := loaded
          exact ⟨kind, notes, ⟨there, loadNotes_isOk.mp ⟨notes, read⟩⟩, made⟩

/-- A node is of the kind that its tree names. -/
theorem loadAt_kind {tree : Value} {kind : NodeKind} (names : Tagged.Names kind tree) {path : Path}
    {node : Node} (loaded : loadAt tree path = .ok node) : node.kind? = some kind := by
  obtain ⟨members, rfl, named⟩ := names
  rw [loadAt_of_names named, bind_eq_ok] at loaded
  obtain ⟨notes, -, made⟩ := loaded
  exact Draft.node_kind made

/-- A decoded tree of a node names the node's kind. -/
theorem names_of_loadAt {tree : Value} (decoded : tree.isDecoded = true) {path : Path} {node : Node}
    {kind : NodeKind} (loaded : loadAt tree path = .ok node) (same : node.kind? = some kind) :
    Tagged.Names kind tree := by
  cases tree with
  | dict members =>
      obtain ⟨own, notes, head, made⟩ := loadAt_eq_ok decoded loaded
      obtain rfl : own = kind := Option.some.inj ((Draft.node_kind made).symm.trans same)
      exact ⟨members, rfl, head.kind⟩
  | _ => cases loaded

theorem isSchema_iff {node : Node} : node.isSchema = true ↔ node.kind? = some .schema := by
  cases node <;> simp [isSchema, kind?]

theorem isKey_iff {node : Node} : node.isKey = true ↔ node.kind? = some .key := by
  cases node <;> simp [isKey, kind?]

/-! ## What is loaded is tagged -/

/-- The production of a node, when what is loaded below it is tagged. -/
theorem tagged_of_node {members : Members} {path : Path} {kind : NodeKind} {notes : Value}
    {node : Node} (head : Tagged.Head kind members)
    (decoded : Value.membersAreDecoded members = true)
    (below : ∀ v, sizeOf v < sizeOf members → v.isDecoded = true →
      ∀ path node, loadAt v path = .ok node → Tagged v)
    (made : (Draft.ofMembers members path kind).node notes = .ok node) :
    Tagged (.dict members) := by
  -- a field that is loaded as a node is tagged
  have tagged {name : String} {v : Value} {path : Path} {node : Node}
      (held : Members.get? name members = some v) (loaded : loadAt v path = .ok node) : Tagged v :=
    below v (Members.sizeOf_lt_of_get? held) (Value.isDecoded_of_get? decoded held) path node loaded
  -- and so is each item of a field that is a list
  have taggedItem {name : String} {items : List Value} {v : Value} {path : Path} {node : Node}
      (held : Members.get? name members = some (.list items)) (mem : v ∈ items)
      (loaded : loadAt v path = .ok node) : v.isDecoded = true ∧ Tagged v := by
    have outer := Members.sizeOf_lt_of_get? held
    have inner := List.sizeOf_lt_of_mem mem
    have plain := Value.isDecoded_of_get? decoded held
    rw [Value.isDecoded] at plain
    have own := Value.isDecoded_of_mem plain v mem
    rw [Value.list.sizeOf_spec] at outer
    exact ⟨own, below v (by omega) own path node loaded⟩
  -- the field set of an object type is tagged and names its kind
  have fieldSet {node : Node} (chosen : (Draft.ofMembers members path kind).schemaChild = .ok node) :
      ∃ fields, Members.get? "schema" members = some fields ∧ Tagged.Names .schema fields ∧
        Tagged fields := by
    obtain ⟨child, schema⟩ := Draft.schemaChild_eq_ok.mp chosen
    obtain ⟨fields, held, loaded⟩ := Draft.child_eq_ok.mp child
    have own := Value.isDecoded_of_get? decoded held
    exact ⟨fields, held, names_of_loadAt own loaded (isSchema_iff.mp schema), tagged held loaded⟩
  cases kind with
  | nominal =>
      simp only [Draft.node, bind_eq_ok, Draft.primitive_eq_ok] at made
      obtain ⟨p, ⟨v, held, named⟩, -⟩ := made
      have own := Value.isDecoded_of_get? decoded held
      cases v with
      | str s => exact .nominal head (by rw [held, Primitive.name_of_ofName? named])
      | primitive q => cases own
      | host c => cases own
      | _ => cases named
  | constructor =>
      simp only [Draft.node, bind_eq_ok, Draft.child_eq_ok] at made
      obtain ⟨type, ⟨v, held, loaded⟩, -⟩ := made
      exact .constructor head held (tagged held loaded)
  | constrained =>
      simp only [Draft.node, bind_eq_ok, Draft.child_eq_ok] at made
      obtain ⟨type, ⟨v, held, loaded⟩, rule, ⟨w, held', loaded'⟩, -⟩ := made
      exact .constrained head held (tagged held loaded) held' (tagged held' loaded')
  | predicate =>
      simp only [Draft.node, bind_eq_ok, Draft.field_eq_ok] at made
      obtain ⟨name, named, -⟩ := made
      exact .predicate head named
  | sum =>
      simp only [Draft.node, bind_eq_ok, Draft.alternatives_eq_ok] at made
      obtain ⟨nodes, ⟨types, held, filled, loaded⟩, -⟩ := made
      refine .sum head held filled fun type mem => ?_
      obtain ⟨path, node, -, own⟩ := Draft.loadAt_of_loadItems loaded type mem
      exact (taggedItem held mem own).2
  | intersection =>
      simp only [Draft.node, bind_eq_ok, Draft.child_eq_ok] at made
      obtain ⟨left, ⟨v, held, loaded⟩, right, ⟨w, held', loaded'⟩, -⟩ := made
      exact .intersection head held (tagged held loaded) held' (tagged held' loaded')
  | mapping =>
      simp only [Draft.node] at made
      by_cases absent : ((Members.get? "schema" members).getD .null).isNull = true
      · refine .mapping head ?_
        cases v : (Members.get? "schema" members).getD .null with
        | null => rfl
        | _ => simp [v, Value.isNull] at absent
      · rw [if_neg absent, bind_eq_ok] at made
        obtain ⟨fields, chosen, -⟩ := made
        obtain ⟨v, held, names, own⟩ := fieldSet chosen
        exact .mappingOf head held names own
  | aggregate =>
      simp only [Draft.node, bind_eq_ok] at made
      obtain ⟨fields, chosen, -⟩ := made
      obtain ⟨v, held, names, own⟩ := fieldSet chosen
      exact .aggregate head held names own
  | array =>
      simp only [Draft.node, bind_eq_ok, Draft.child_eq_ok] at made
      obtain ⟨member, ⟨v, held, loaded⟩, -⟩ := made
      exact .array head held (tagged held loaded)
  | schema =>
      simp only [Draft.node, bind_eq_ok, Draft.keys_eq_ok] at made
      obtain ⟨nodes, ⟨absent, -⟩ | ⟨keys, held, loaded⟩, -⟩ := made
      · exact .schema head absent
      · refine .schemaOf head held (fun key mem => ?_) fun key mem => ?_
        · obtain ⟨loaded, fields⟩ := Draft.loadKeys_eq_ok.mp loaded
          obtain ⟨path, node, there, own⟩ := Draft.loadAt_of_loadItems loaded key mem
          exact names_of_loadAt (taggedItem held mem own).1 own (isKey_iff.mp (fields node there))
        · obtain ⟨loaded, -⟩ := Draft.loadKeys_eq_ok.mp loaded
          obtain ⟨path, node, -, own⟩ := Draft.loadAt_of_loadItems loaded key mem
          exact (taggedItem held mem own).2
  | key =>
      simp only [Draft.node, bind_eq_ok, Draft.child_eq_ok, Draft.field_eq_ok] at made
      obtain ⟨name, named, type, ⟨v, held, loaded⟩, -⟩ := made
      exact .key head named held (tagged held loaded)
  | enum =>
      simp only [Draft.node, bind_eq_ok, Draft.child_eq_ok] at made
      obtain ⟨type, ⟨v, held, loaded⟩, items, offered, -⟩ := made
      refine .enum head held (tagged held loaded) ?_
      have some := Draft.values_isOk.mp ⟨items, offered⟩
      cases values : Members.get? "values" members with
      | none => rfl
      | some w =>
          have own := Value.isDecoded_of_get? decoded values
          have listed := some w values
          cases w with
          | list | str | dict => rfl
          | tuple | set | primitive => cases own
          | _ => cases listed

/-- A decoded value that is loaded is tagged. -/
theorem tagged_of_loadAt : ∀ (tree : Value), tree.isDecoded = true → ∀ (path : Path) (node : Node),
    loadAt tree path = .ok node → Tagged tree
  | .dict members, decoded, path, node, loaded => by
      obtain ⟨kind, notes, head, made⟩ := loadAt_eq_ok decoded loaded
      refine tagged_of_node head decoded (fun v smaller own path node loaded => ?_) made
      exact tagged_of_loadAt v own path node loaded
  | .null, _, _, _, loaded | .bool _, _, _, _, loaded | .int _, _, _, _, loaded
  | .float _, _, _, _, loaded | .str _, _, _, _, loaded | .decimal _, _, _, _, loaded
  | .primitive _, _, _, _, loaded | .host _, _, _, _, loaded | .pattern _, _, _, _, loaded
  | .list _, _, _, _, loaded | .tuple _, _, _, _, loaded | .set _, _, _, _, loaded => by
      cases loaded
termination_by tree => sizeOf tree
decreasing_by
  rw [Value.dict.sizeOf_spec]
  omega

/-! ## What is tagged is loaded -/

/-- A dictionary with the head of a kind is loaded if its draft becomes a node. -/
theorem loadAt_of_head {members : Members} {kind : NodeKind} (head : Tagged.Head kind members)
    (made : ∀ path notes, ∃ node, (Draft.ofMembers members path kind).node notes = .ok node)
    (path : Path) : ∃ node, loadAt (.dict members) path = .ok node := by
  obtain ⟨notes, read⟩ := loadNotes_isOk.mpr head.notes
  obtain ⟨node, own⟩ := made path notes
  exact ⟨node, by rw [loadAt_of_names head.kind, bind_eq_ok]; exact ⟨notes, read, own⟩⟩

/-- A tagged tree is loaded, wherever it stands. -/
theorem loadAt_of_tagged {tree : Value} (tagged : Tagged tree) :
    ∀ path, ∃ node, loadAt tree path = .ok node := by
  induction tagged with
  | @nominal members p head primitive =>
      refine loadAt_of_head head fun path notes => ⟨_, bind_eq_ok.mpr ⟨p, ?_, rfl⟩⟩
      exact Draft.primitive_eq_ok.mpr ⟨_, primitive, Primitive.ofName?_name p⟩
  | @constructor members type head held below ih =>
      refine loadAt_of_head head fun path notes => ?_
      obtain ⟨node, loaded⟩ := ih (path ++ [.member "type"])
      exact ⟨_, bind_eq_ok.mpr ⟨node, Draft.child_eq_ok.mpr ⟨type, held, loaded⟩, rfl⟩⟩
  | @constrained members type rule head held below held' below' ih ih' =>
      refine loadAt_of_head head fun path notes => ?_
      obtain ⟨node, loaded⟩ := ih (path ++ [.member "type"])
      obtain ⟨node', loaded'⟩ := ih' (path ++ [.member "rule"])
      exact ⟨_, bind_eq_ok.mpr ⟨node, Draft.child_eq_ok.mpr ⟨type, held, loaded⟩,
        bind_eq_ok.mpr ⟨node', Draft.child_eq_ok.mpr ⟨rule, held', loaded'⟩, rfl⟩⟩⟩
  | @predicate members name head named =>
      refine loadAt_of_head head fun path notes => ⟨_, bind_eq_ok.mpr ⟨name, ?_, rfl⟩⟩
      exact Draft.field_eq_ok.mpr named
  | @sum members types head held filled below ih =>
      refine loadAt_of_head head fun path notes => ?_
      obtain ⟨nodes, loaded⟩ := Draft.loadItems_of_loadAt ih (path ++ [.member "types"]) 0
      exact ⟨_, bind_eq_ok.mpr ⟨nodes,
        Draft.alternatives_eq_ok.mpr ⟨types, held, filled, loaded⟩, rfl⟩⟩
  | @intersection members left right head held below held' below' ih ih' =>
      refine loadAt_of_head head fun path notes => ?_
      obtain ⟨node, loaded⟩ := ih (path ++ [.member "left"])
      obtain ⟨node', loaded'⟩ := ih' (path ++ [.member "right"])
      exact ⟨_, bind_eq_ok.mpr ⟨node, Draft.child_eq_ok.mpr ⟨left, held, loaded⟩,
        bind_eq_ok.mpr ⟨node', Draft.child_eq_ok.mpr ⟨right, held', loaded'⟩, rfl⟩⟩⟩
  | @mapping members head absent =>
      refine loadAt_of_head head fun path notes => ⟨mapping (plain .null) notes, ?_⟩
      simp [Draft.node, absent, Value.isNull, pure, Except.pure]
  | @mappingOf members fields head held names below ih =>
      refine loadAt_of_head head fun path notes => ?_
      obtain ⟨node, loaded⟩ := ih (path ++ [.member "schema"])
      have schema := isSchema_iff.mpr (loadAt_kind names loaded)
      have chosen : (Draft.ofMembers members path .mapping).schemaChild = .ok node :=
        Draft.schemaChild_eq_ok.mpr ⟨Draft.child_eq_ok.mpr ⟨fields, held, loaded⟩, schema⟩
      obtain ⟨own, rfl, -⟩ := names
      refine ⟨mapping node notes, ?_⟩
      simp only [Draft.node, held, Option.getD_some, Value.isNull]
      exact bind_eq_ok.mpr ⟨node, chosen, rfl⟩
  | @aggregate members fields head held names below ih =>
      refine loadAt_of_head head fun path notes => ?_
      obtain ⟨node, loaded⟩ := ih (path ++ [.member "schema"])
      have schema := isSchema_iff.mpr (loadAt_kind names loaded)
      exact ⟨_, bind_eq_ok.mpr ⟨node,
        Draft.schemaChild_eq_ok.mpr ⟨Draft.child_eq_ok.mpr ⟨fields, held, loaded⟩, schema⟩, rfl⟩⟩
  | @array members member head held below ih =>
      refine loadAt_of_head head fun path notes => ?_
      obtain ⟨node, loaded⟩ := ih (path ++ [.member "member"])
      exact ⟨_, bind_eq_ok.mpr ⟨node, Draft.child_eq_ok.mpr ⟨member, held, loaded⟩, rfl⟩⟩
  | @schema members head absent =>
      refine loadAt_of_head head fun path notes => ⟨_, bind_eq_ok.mpr ⟨[], ?_, rfl⟩⟩
      exact Draft.keys_eq_ok.mpr (.inl ⟨absent, rfl⟩)
  | @schemaOf members keys head held names below ih =>
      refine loadAt_of_head head fun path notes => ?_
      have each : ∀ key ∈ keys, ∀ path, ∃ node, loadAt key path = .ok node ∧ node.isKey = true := by
        intro key mem path
        obtain ⟨node, loaded⟩ := ih key mem path
        exact ⟨node, loaded, isKey_iff.mpr (loadAt_kind (names key mem) loaded)⟩
      obtain ⟨nodes, loaded⟩ := Draft.loadKeys_of_loadAt each (path ++ [.member "keys"]) 0
      exact ⟨_, bind_eq_ok.mpr ⟨nodes, Draft.keys_eq_ok.mpr (.inr ⟨keys, held, loaded⟩), rfl⟩⟩
  | @key members name type head named held below ih =>
      refine loadAt_of_head head fun path notes => ?_
      obtain ⟨node, loaded⟩ := ih (path ++ [.member "type"])
      exact ⟨_, bind_eq_ok.mpr ⟨name, Draft.field_eq_ok.mpr named,
        bind_eq_ok.mpr ⟨node, Draft.child_eq_ok.mpr ⟨type, held, loaded⟩, rfl⟩⟩⟩
  | @enum members type head held below values ih =>
      refine loadAt_of_head head fun path notes => ?_
      obtain ⟨node, loaded⟩ := ih (path ++ [.member "type"])
      have offered : ∀ v, Members.get? "values" members = some v → v.items?.isSome = true := by
        intro v there
        rw [there] at values
        cases v <;> simp_all [offersValues, Value.items?]
      have read : ∃ items, (Draft.ofMembers members path .enum).values = .ok items :=
        Draft.values_isOk.mpr offered
      obtain ⟨items, chosen⟩ := read
      exact ⟨_, bind_eq_ok.mpr ⟨node, Draft.child_eq_ok.mpr ⟨type, held, loaded⟩,
        bind_eq_ok.mpr ⟨items, chosen, rfl⟩⟩⟩

/-! ## The language of the loader -/

/-- A decoded value is loaded exactly if the grammar derives it. -/
theorem load_iff_tagged {tree : Value} (decoded : tree.isDecoded = true) :
    (∃ node, load tree = .ok node) ↔ Tagged tree :=
  ⟨fun ⟨node, loaded⟩ => tagged_of_loadAt tree decoded [] node loaded,
    fun tagged => loadAt_of_tagged tagged []⟩

/-- A list of objects of a named type, with a member that no production asks for.  What the
type has for a field set is left open. -/
def crateTree (fields : Value) : Value :=
  .dict (Members.named [("kind", .str "array"), ("meta", .int 0), ("remark", .bool true),
    ("member", .dict (Members.named [("kind", .str "aggregate"), ("schema", fields)]))])

theorem load_iff_tagged_crate :
    ((∃ node, load (crateTree (.dict (Members.named [("kind", .str "schema")]))) = .ok node) ↔
        Tagged (crateTree (.dict (Members.named [("kind", .str "schema")])))) ∧
      Tagged (crateTree (.dict (Members.named [("kind", .str "schema")]))) ∧
      ¬ Tagged (crateTree .null) := by
  refine ⟨load_iff_tagged rfl, (load_iff_tagged rfl).mp ⟨_, rfl⟩, fun tagged => ?_⟩
  obtain ⟨node, loaded⟩ := (load_iff_tagged rfl).mpr tagged
  cases loaded

end Node

end Draftsman
