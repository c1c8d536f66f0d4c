/-
# Draftsman.Proofs.DocumentShape -- the shape of compiled documents

`Shaped` says what a document may hold at one schema position.  It is read off the
invariant of all fragments (`Good.shaped`); the mark of a root document is one more
keyword at the top (`Shaped.marked`).

The main result is `compile_shaped`: a document that is compiled from a loaded description
is shaped at every position.
-/
import Draftsman.Proofs.Soundness

namespace Draftsman

set_option autoImplicit false

namespace Document

open Members

/-- What a schema position holds: some keywords only, and under those that name types,
fields and other schemas what they ask for. -/
structure Shaped (allowed : List String) (members : Members) : Prop where
  keywords : ∀ member ∈ members, ∃ name ∈ allowed, member.1 = .str name
  distinct : members.names.Nodup
  type : ∀ {v}, get? "type" members = some v → ∃ name ∈ Draft06.typeNames, v = .str name
  /-- Required names are different, and fields of the same object. -/
  required : ∀ {v}, get? "required" members = some v →
    ∃ names fields, v = .list names ∧ names ≠ [] ∧ Different names ∧
      get? "properties" members = some (.dict fields) ∧ ∀ own ∈ names, has own fields = true
  /-- There are several alternatives, all different. -/
  alternatives : ∀ {v}, get? "anyOf" members = some v →
    ∃ items, v = .list items ∧ 2 ≤ items.length ∧ Different items ∧
      ∀ item ∈ items, ∃ inner, item = .dict inner
  element : ∀ {v}, get? "items" members = some v → ∃ inner, v = .dict inner
  fields : ∀ {v}, get? "properties" members = some v →
    ∃ fields, v = .dict fields ∧ Named fields ∧ ∀ field ∈ fields, ∃ inner, field.2 = .dict inner
  exclusion : ∀ {v}, get? "not" members = some v →
    ∃ items, v = .dict [(.str "enum", .list items)]

theorem has_of_mem_names {own : Value} {text : String} {fields : Members}
    (named : own.text? = some text) (listed : text ∈ fields.names) : has own fields = true := by
  simpa [has, lookup_of_text? named] using get?_isSome.mpr listed

theorem Good.shaped {leaf : String → Value → Prop} {members : Members}
    (good : Good leaf members) : Shaped Document.keywords members where
  keywords member held := by
    obtain ⟨name, key⟩ := good.keys member held
    have text : member.1.text? = some name := by rw [key]; rfl
    have found := good.named.get?_of_mem text held
    exact ⟨name, (good.entries found).known, key⟩
  distinct := good.distinct
  type found := (good.entries found).type rfl
  required found := by
    obtain ⟨names, rfl, filled, apart, texts⟩ := (good.entries found).required rfl
    have within := good.within found
    -- one name is required at least, so there are fields
    obtain ⟨first, rest, rfl⟩ := List.exists_cons_of_ne_nil filled
    obtain ⟨text, firstText⟩ := Option.isSome_iff_exists.mp (texts first List.mem_cons_self)
    have firstListed := within first List.mem_cons_self text firstText
    cases there : get? "properties" members with
    | none => simp [fieldNames, there] at firstListed
    | some v =>
        obtain ⟨fields, rfl, -, -⟩ := (good.entries there).fields rfl
        refine ⟨_, fields, rfl, filled, apart, rfl, fun own held => ?_⟩
        obtain ⟨own, ownText⟩ := Option.isSome_iff_exists.mp (texts own held)
        have listed := within _ held own ownText
        rw [fieldNames, there] at listed
        exact has_of_mem_names ownText listed
  alternatives found := (good.entries found).alternatives rfl
  element found := (good.entries found).element rfl
  fields found := (good.entries found).fields rfl
  exclusion found := by
    obtain ⟨items, same, -⟩ := (good.entries found).exclusion rfl
    exact ⟨items, same⟩

theorem get?_marked {name : String} (other : name ∉ shapedKeywords) (v : Value)
    (members : Members) : ∀ special ∈ shapedKeywords,
      get? special (Members.insert (.str name) v members) = get? special members :=
  fun special listed =>
    get?_insert_of_ne (fun same : special = name => other (same ▸ listed)) v members

/-- A keyword that holds no types, schemas or names can be written beside the others. -/
theorem Shaped.marked {allowed : List String} {members : Members} (shaped : Shaped allowed members)
    {name : String} (other : name ∉ shapedKeywords) (v : Value) :
    Shaped (name :: allowed) (Members.insert (.str name) v members) := by
  have same := get?_marked other v members
  have named : Named members :=
    ⟨fun member held => by
      obtain ⟨own, -, key⟩ := shaped.keywords member held
      rw [key]; rfl, shaped.distinct⟩
  refine ⟨fun member held => ?_, (named.insert rfl v).distinct, fun found => ?_, fun found => ?_,
    fun found => ?_, fun found => ?_, fun found => ?_, fun found => ?_⟩
  · have known : ∀ old ∈ members, ∃ own ∈ name :: allowed, old.1 = .str own := fun old held =>
      (shaped.keywords old held).imp fun _ own => ⟨List.mem_cons_of_mem _ own.1, own.2⟩
    rcases mem_insert held with old | ⟨-, own | ⟨old, there, key⟩⟩
    · exact known member old
    · exact ⟨name, List.mem_cons_self, own⟩
    · exact key ▸ known old there
  · exact shaped.type (same "type" (by decide) ▸ found)
  · rw [same "required" (by decide)] at found
    rw [same "properties" (by decide)]
    exact shaped.required found
  · exact shaped.alternatives (same "anyOf" (by decide) ▸ found)
  · exact shaped.element (same "items" (by decide) ▸ found)
  · exact shaped.fields (same "properties" (by decide) ▸ found)
  · exact shaped.exclusion (same "not" (by decide) ▸ found)

theorem Child.of_marked {members child : Members} {name : String} {v : Value}
    (other : name ∉ shapedKeywords) (held : Child (Members.insert (.str name) v members) child) :
    Child members child :=
  held.of_get? (get?_marked other v members)

end Document

namespace Node

open Document

theorem filled_of_formed {node : Node} (formed : node.formed = true) : node.filled = true := by
  cases node with
  | sum types notes =>
      cases types with
      | nodes items =>
          cases items with
          | nil => cases notes <;> cases formed
          | cons first rest => rfl
      | value v => cases notes <;> cases formed
  | _ => rfl

/-- Nothing is asked of plain keywords. -/
theorem leaves_trivial : Leaves fun _ _ => True :=
  ⟨fun _ _ _ _ => trivial, trivial, fun _ => trivial⟩

/-- A formed node that has a text for its name if it is a field. -/
def Labelled (node : Node) : Prop :=
  node.formed = true ∧
    ∀ name type required notes, node = key name type required notes → name.text?.isSome = true

/-- No part of a labelled description brings along a mark. -/
theorem supplied_of_labelled {leaf : String → Value → Prop}
    (free : ∀ {name v}, name ≠ "nullable" → leaf name v) : Supplied leaf Labelled where
  note {node members name v} _ listed _ _ := by
    have unlisted : "nullable" ∉ annotationNames := by decide
    exact free fun same => unlisted (same ▸ listed)
  reference _ _ _ := free (by decide)
  constraint {name operand notes leftType own c v} _ _ listed applied written := by
    have unlisted : ∀ entry ∈ constraints, entry.2.keyword ≠ "nullable" := by decide
    exact entry_of_constraint listed applied written
      (fun _ => free (unlisted (own, c) (mem_constraints listed))) fun _ _ _ => free (by decide)
  fieldName fit := fit.2 _ _ _ _ rfl
  filled fit := filled_of_formed fit.1

theorem supplied_of_formed :
    Supplied (fun _ _ => True) fun node => node.formed = true ∧
      ∀ name type required notes, node = key name type required notes →
        name.text?.isSome = true :=
  supplied_of_labelled fun _ => trivial

/-- A document that is compiled from a loaded description is shaped at every position; at
the top it is marked exactly if it is a root. -/
theorem compile_shaped {o : Options} {tree : Value} {node : Node} {document : Members}
    (loaded : load tree = .ok node)
    (texts : ∀ name type required notes, key name type required notes ∈ node.parts →
      name.text?.isSome = true)
    (compiled : node.compile o = .ok document) :
    Shaped (if o.root.truthy then "$schema" :: keywords else keywords) document ∧
      (Members.get? "$schema" document).isSome = o.root.truthy ∧
        ∀ inner, Relation.TransGen Child document inner → Shaped keywords inner := by
  simp only [compile, bind_eq_ok, pure_eq_ok] at compiled
  obtain ⟨fragment, visited, rfl⟩ := compiled
  have sound := visit_sound leaves_trivial supplied_of_formed (fun part held =>
    ⟨(load_formed loaded).2 part held, fun name type required notes same =>
      texts name type required notes (same ▸ held)⟩) visited
  have below {inner : Members} (held : Relation.TransGen Child fragment inner) :
      Shaped keywords inner := (sound inner held.to_reflTransGen).shaped
  have whole : Shaped keywords fragment := (sound fragment .refl).shaped
  cases root : o.root.truthy with
  | false =>
      have unmarked : Members.get? "$schema" fragment = none := by
        refine Members.get?_eq_none_iff.mpr fun held => ?_
        obtain ⟨member, there, text⟩ := Members.mem_names.mp held
        obtain ⟨name, listed, key⟩ := whole.keywords member there
        rw [key] at text
        obtain rfl : name = "$schema" := Option.some.inj text
        revert listed
        decide
      exact ⟨whole, by simp [unmarked], fun inner held => below held⟩
  | true =>
      refine ⟨whole.marked (by decide) _, by simp [Members.get?_insert_self], fun inner held => ?_⟩
      obtain ⟨child, first, later⟩ := Relation.TransGen.head'_iff.mp held
      exact below (Relation.TransGen.head' (first.of_marked (by decide)) later)

def labelTree : Value :=
  .dict (Members.named [("kind", .str "schema"), ("keys", .list
    [.dict (Members.named [("kind", .str "key"), ("name", .str "label"), ("type",
      .dict (Members.named [("kind", .str "sum"), ("types", .list
        [.dict (Members.named [("kind", .str "nominal"), ("primitive", .str "string")]),
          .dict (Members.named [("kind", .str "nominal"), ("primitive", .str "integer")])])]))])])])

def labelNode : Node :=
  schema (.nodes [key (.str "label") (sum (.nodes [nominal (.primitive .string) (.dict []),
    nominal (.primitive .integer) (.dict [])]) (.dict [])) (.bool true) (.dict [])]) (.dict [])

def labelDocument : Members :=
  Members.named [("type", .str "object"), ("properties", .dict (Members.named [("label",
      .dict (Members.named [("anyOf", .list [.dict (Members.named [("type", .str "string")]),
        .dict (Members.named [("type", .str "integer")])])]))])),
    ("required", .list [.str "label"]), ("$schema", .str dialect)]

theorem compile_shaped_label :
    load labelTree = .ok labelNode ∧
      labelNode.compile { root := .bool true } = .ok labelDocument ∧
      Shaped ("$schema" :: keywords) labelDocument ∧
      (Members.get? "$schema" labelDocument).isSome = true ∧
      ∀ inner, Relation.TransGen Child labelDocument inner → Shaped keywords inner :=
  ⟨rfl, rfl, compile_shaped (rfl : load labelTree = .ok labelNode) (by
      intro name type required notes held
      simp only [parts, partsOfSlot, partsOfEach, List.append_nil, List.mem_cons, reduceCtorEq,
        key.injEq, List.not_mem_nil, or_false, false_or, List.mem_append] at held
      simp [held.1, Value.text?])
    (rfl : labelNode.compile { root := .bool true } = .ok labelDocument)⟩

end Node

end Draftsman
