/-
# Draftsman.Proofs.ReadingOrder -- what the loader reads of a dictionary, and when

The loader knows a dictionary by what stands under names.  It asks for the kind and the notes of a
node first, then for the fields of the kind, one after the other (`readNames`).  A field that holds
a node is known by the node that it loads as, one that holds nodes by those of its items.

So a dictionary is loaded as any other in which the same is found under these names
(`loadAt_congr`): neither the order of the members matters, nor what else there is.
-/
import Draftsman.Proofs.Refusals

namespace Draftsman

set_option autoImplicit false

/-! ## Fields in order -/

namespace NodeKind

/-- The fields of a kind in the order in which they are read. -/
def fields : NodeKind → List String
  | nominal => ["primitive"]
  | constructor => ["type"]
  | constrained => ["type", "rule"]
  | predicate => ["name", "operand"]
  | sum => ["types"]
  | intersection => ["left", "right"]
  | mapping => ["schema"]
  | aggregate => ["schema", "name"]
  | array => ["member"]
  | schema => ["keys"]
  | key => ["name", "type", "required"]
  | enum => ["type", "values"]

theorem mem_fields_of_nodeFields {kind : NodeKind} {name : String}
    (asked : name ∈ kind.nodeFields) : name ∈ kind.fields := by
  have each : ∀ own ∈ kind.nodeFields, own ∈ kind.fields := by cases kind <;> decide
  exact each name asked

theorem mem_fields_of_listField? {kind : NodeKind} {name : String}
    (asked : kind.listField? = some name) : name ∈ kind.fields := by
  have each : ∀ own ∈ kind.listField?, own ∈ kind.fields := by cases kind <;> decide
  exact each name asked

end NodeKind

namespace Node

def readNames (members : Members) : List String :=
  "kind" :: "meta" :: ((namedKind? members).map NodeKind.fields).getD []

theorem loadEach_eq_map (values : List Value) : loadEach values = values.map loadAt := by
  induction values with
  | nil => rfl
  | cons first rest ih => rw [loadEach, ih, List.map_cons]

/-! ## Dictionaries that are read alike -/

/-- Two things found under a field of a kind that are read alike: they are the same, or the field
holds a node and they load as one, or it holds nodes and their items do. -/
inductive Alike (kind : NodeKind) (name : String) : Option Value → Option Value → Prop where
  | same (found : Option Value) : Alike kind name found found
  | node {v v' : Value} (asked : name ∈ kind.nodeFields) (null : v'.isNull = v.isNull)
      (loads : loadAt v' = loadAt v) : Alike kind name (some v) (some v')
  | items {v v' : Value} (asked : kind.listField? = some name)
      (offered : itemOffers? v' = itemOffers? v) : Alike kind name (some v) (some v')

namespace Alike

variable {kind : NodeKind} {name : String} {found found' : Option Value}

theorem loads (alike : Alike kind name found found') (single : kind.listField? ≠ some name) :
    found'.map loadAt = found.map loadAt := by
  cases alike with
  | same => rfl
  | node asked null loads => exact congrArg some loads
  | items asked offered => exact absurd asked single

theorem isNull (alike : Alike kind name found found') (single : kind.listField? ≠ some name) :
    (found'.getD .null).isNull = (found.getD .null).isNull := by
  cases alike with
  | same => rfl
  | node asked null loads => exact null
  | items asked offered => exact absurd asked single

theorem offered (alike : Alike kind name found found') (listed : name ∉ kind.nodeFields) :
    found'.map itemOffers? = found.map itemOffers? := by
  cases alike with
  | same => rfl
  | node asked null loads => exact absurd asked listed
  | items asked offered => exact congrArg some offered

/-- What holds no nodes is read as it is. -/
theorem eq (alike : Alike kind name found found') (single : kind.listField? ≠ some name)
    (plain : name ∉ kind.nodeFields) : found' = found := by
  cases alike with
  | same => rfl
  | node asked null loads => exact absurd asked plain
  | items asked offered => exact absurd asked single

end Alike

namespace Draft

variable {members members' : Members} {path : Path} {kind : NodeKind} {name : String}

theorem field_congr (same : Members.get? name members' = Members.get? name members) :
    (ofMembers members' path kind).field name = (ofMembers members path kind).field name := by
  rw [field, field, same]
  rfl

theorem primitive_congr
    (same : Members.get? "primitive" members' = Members.get? "primitive" members) :
    (ofMembers members' path kind).primitive = (ofMembers members path kind).primitive := by
  rw [primitive, primitive, field_congr same]
  rfl

/-- A field is known by what it loads as. -/
theorem child_congr
    (same : (Members.get? name members').map loadAt = (Members.get? name members).map loadAt) :
    (ofMembers members' path kind).child name = (ofMembers members path kind).child name := by
  simp only [child, offer, Offer.find?_offers]
  cases there : Members.get? name members with
  | none =>
      rw [there, Option.map_none, Option.map_eq_none_iff] at same
      rw [same]
      rfl
  | some v =>
      rw [there] at same
      obtain ⟨v', there', loads⟩ := Option.map_eq_some_iff.mp same
      have own : loadAt v' (path ++ [.member name]) = loadAt v (path ++ [.member name]) :=
        congrFun loads _
      rw [there']
      exact own

theorem schemaChild_congr
    (same : (Members.get? "schema" members').map loadAt =
      (Members.get? "schema" members).map loadAt) :
    (ofMembers members' path kind).schemaChild = (ofMembers members path kind).schemaChild := by
  rw [schemaChild, schemaChild, child_congr same]
  rfl

/-- The alternatives of a union are known by what they load as. -/
theorem alternatives_congr
    (same : (Members.get? "types" members').map itemOffers? =
      (Members.get? "types" members).map itemOffers?) :
    (ofMembers members' path kind).alternatives = (ofMembers members path kind).alternatives := by
  simp only [alternatives, offer, Offer.find?_offers]
  cases there : Members.get? "types" members with
  | none =>
      rw [there, Option.map_none, Option.map_eq_none_iff] at same
      rw [same]
      rfl
  | some v =>
      rw [there] at same
      obtain ⟨v', there', offered⟩ := Option.map_eq_some_iff.mp same
      rw [there']
      simp only [Option.map_some, bind, Except.bind, offered]
      rfl

theorem keys_congr
    (same : (Members.get? "keys" members').map itemOffers? =
      (Members.get? "keys" members).map itemOffers?) :
    (ofMembers members' path kind).keys = (ofMembers members path kind).keys := by
  simp only [keys, Offer.find?_offers]
  cases there : Members.get? "keys" members with
  | none =>
      rw [there, Option.map_none, Option.map_eq_none_iff] at same
      rw [same]
      rfl
  | some v =>
      rw [there] at same
      obtain ⟨v', there', offered⟩ := Option.map_eq_some_iff.mp same
      rw [there']
      simp only [Option.map_some, offered]
      rfl

/-- A draft becomes the node that any other becomes in which the fields of its kind are read
alike. -/
theorem node_congr
    (alike : ∀ name ∈ kind.fields,
      Alike kind name (Members.get? name members) (Members.get? name members'))
    (notes : Value) :
    (ofMembers members' path kind).node notes = (ofMembers members path kind).node notes := by
  cases kind with
  | nominal =>
      have primitive := (alike "primitive" (by decide)).eq (by decide) (by decide)
      simp only [node, primitive_congr primitive]
  | constructor =>
      have type := (alike "type" (by decide)).loads (by decide)
      simp only [node, child_congr type]
  | constrained =>
      have type := (alike "type" (by decide)).loads (by decide)
      have rule := (alike "rule" (by decide)).loads (by decide)
      simp only [node, child_congr type, child_congr rule]
  | predicate =>
      have name := (alike "name" (by decide)).eq (by decide) (by decide)
      have operand := (alike "operand" (by decide)).eq (by decide) (by decide)
      simp only [node, field_congr name, Draft.operand, operand]
  | sum =>
      have types := (alike "types" (by decide)).offered (by decide)
      simp only [node, alternatives_congr types]
  | intersection =>
      have left := (alike "left" (by decide)).loads (by decide)
      have right := (alike "right" (by decide)).loads (by decide)
      simp only [node, child_congr left, child_congr right]
  | mapping =>
      have fields := alike "schema" (by decide)
      simp only [node, fields.isNull (by decide), schemaChild_congr (fields.loads (by decide))]
  | aggregate =>
      have fields := (alike "schema" (by decide)).loads (by decide)
      have name := (alike "name" (by decide)).eq (by decide) (by decide)
      simp only [node, schemaChild_congr fields, name]
  | array =>
      have member := (alike "member" (by decide)).loads (by decide)
      simp only [node, child_congr member]
  | schema =>
      have keys := (alike "keys" (by decide)).offered (by decide)
      simp only [node, keys_congr keys]
  | key =>
      have name := (alike "name" (by decide)).eq (by decide) (by decide)
      have type := (alike "type" (by decide)).loads (by decide)
      have required := (alike "required" (by decide)).eq (by decide) (by decide)
      simp only [node, field_congr name, child_congr type, Draft.required, required]
  | enum =>
      have type := (alike "type" (by decide)).loads (by decide)
      have values := (alike "values" (by decide)).eq (by decide) (by decide)
      simp only [node, child_congr type, Draft.values, values]

end Draft

/-- A dictionary is loaded as any other that names the same kind, has the same notes and in which
the fields of the kind are read alike. -/
theorem loadAt_congr {members members' : Members}
    (kinds : Members.get? "kind" members' = Members.get? "kind" members)
    (notes : Members.get? "meta" members' = Members.get? "meta" members)
    (alike : ∀ kind, namedKind? members = some kind → ∀ name ∈ kind.fields,
      Alike kind name (Members.get? name members) (Members.get? name members')) :
    loadAt (.dict members') = loadAt (.dict members) := by
  funext path
  have read : loadNotes members' path = loadNotes members path := by
    rw [loadNotes, loadNotes, notes]
  simp only [loadAt, build, kinds, read]
  split
  · rfl
  · rename_i v held
    split
    · split
      · rfl
      · rename_i kind found
        have named : namedKind? members = some kind := by rw [namedKind?, held]; exact found
        simp only [Draft.node_congr (alike kind named)]
    · rfl

end Node

end Draftsman
