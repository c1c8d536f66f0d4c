/-
# Draftsman.Proofs.Soundness -- the fragments of visits are sound

Every way in which a visit makes a fragment keeps it sound (`sound_kept`), provided that
the nodes bring along what they should (`Supplied`): values for plain keywords that may
stand there, texts as the names of fields, and an alternative at least for each union.

Two slots need more than what their fragments hold one by one:

* the alternatives of a union are different (`visitAlternatives_gathered`);
* the required fields of a field set are among its fields (`Fields.Good`).
-/
import Draftsman.Proofs.Annotations
import Draftsman.Proofs.Shape
import Draftsman.Proofs.Visiting

namespace Draftsman

set_option autoImplicit false

namespace Node

open Document

/-! ## Alternatives -/

def filledSlot : Children → Bool
  | .nodes items => !items.isEmpty
  | .value v =>
      match v.items? with
      | some items => !items.isEmpty
      | none => true

def filled : Node → Bool
  | sum types _ => filledSlot types
  | _ => true

theorem visitPlains_eq_ok {o : Options} {ctx : Context} {values : List Value}
    (visited : visitPlains o ctx values = .ok ()) : values = [] := by
  cases values with
  | nil => rfl
  | cons v rest =>
      obtain ⟨fragment, visited, -⟩ := map_eq_ok.mp visited
      simp [visitPlain, bind_eq_ok] at visited

mutual

/-- The alternatives in a slot are fragments gathered one after the other. -/
theorem visitAlternatives_gathered {o : Options} {ctx : Context} :
    ∀ {types : Children} {found results : List Members},
      visitAlternatives o ctx found types = .ok results →
      ∃ fragments, fragments.foldlM (addNew? Fragment.same?) found = some results ∧
        (filledSlot types = true → (∀ part ∈ partsOfSlot types, part.filled = true) →
          fragments ≠ [])
  | .nodes items, found, results, visited => by
      rw [visitAlternatives] at visited
      obtain ⟨fragments, gathered, some⟩ := visitEach_gathered visited
      exact ⟨fragments, gathered, fun filled below => some (by simpa [filledSlot] using filled) below⟩
  | .value v, found, results, visited => by
      simp only [visitAlternatives, bind_eq_ok, pure_eq_ok, typed_eq_ok] at visited
      obtain ⟨items, offered, ⟨⟩, none, rfl⟩ := visited
      obtain rfl := visitPlains_eq_ok none
      exact ⟨[], rfl, fun filled => by simp [filledSlot, offered] at filled⟩

theorem visitEach_gathered {o : Options} {ctx : Context} :
    ∀ {nodes : List Node} {found results : List Members},
      visitEach o ctx found nodes = .ok results →
      ∃ fragments, fragments.foldlM (addNew? Fragment.same?) found = some results ∧
        (nodes ≠ [] → (∀ part ∈ partsOfEach nodes, part.filled = true) → fragments ≠ [])
  | [], found, results, visited => by
      obtain rfl := Except.ok.inj visited
      exact ⟨[], rfl, fun filled => absurd rfl filled⟩
  | node :: rest, found, results, visited => by
      obtain ⟨next, later, ⟨types, notes, rfl, -, flat⟩ | ⟨fragment, -, added⟩⟩ :=
        visitEach_cons_ok visited
      · -- a union without notes: its fragments come before those of the others
        obtain ⟨first, gathered, some⟩ := visitAlternatives_gathered flat
        obtain ⟨others, gathered', -⟩ := visitEach_gathered later
        refine ⟨first ++ others, by simp [List.foldlM_append, gathered, gathered'], ?_⟩
        rintro - below empty
        obtain ⟨own, inside⟩ := List.forall_mem_cons.mp (List.forall_mem_append.mp below).1
        exact some own inside (List.append_eq_nil_iff.mp empty).1
      · obtain ⟨others, gathered, -⟩ := visitEach_gathered later
        exact ⟨fragment :: others, by simp [List.foldlM_cons, added, gathered], by simp⟩

end

/-- The alternatives of a union are different. -/
theorem visitAlternatives_different {o : Options} {ctx : Context} {types : Children}
    {results : List Members} (visited : visitAlternatives o ctx [] types = .ok results) :
    Different (results.map Value.dict) := by
  obtain ⟨fragments, gathered, -⟩ := visitAlternatives_gathered visited
  exact List.pairwise_map.mpr
    ((foldlM_pairwise List.Pairwise.nil gathered).imp Value.same?_eq_some)

/-- A union with alternatives has a fragment for one at least. -/
theorem visitAlternatives_ne_nil {o : Options} {ctx : Context} {types : Children}
    {results : List Members} {notes : Value}
    (filled : ∀ part ∈ (sum types notes).parts, part.filled = true)
    (visited : visitAlternatives o ctx [] types = .ok results) : results ≠ [] := by
  obtain ⟨own, below⟩ := List.forall_mem_cons.mp filled
  obtain ⟨fragments, gathered, some⟩ := visitAlternatives_gathered visited
  exact foldlM_ne_nil (some own below) gathered

/-! ## Fields -/

/-- A field set that requires fields of its own only, each once. -/
structure Fields.Good (fields : Fields) : Prop where
  named : fields.properties.Named
  different : Different fields.required
  listed : ∀ own ∈ fields.required,
    ∃ text, own.text? = some text ∧ text ∈ fields.properties.names

theorem Fields.Good.empty : Fields.Good {} :=
  ⟨Members.Named.nil, List.Pairwise.nil, by simp⟩

theorem addNew_cases (found : List Value) (item : Value) :
    addNew Value.equal found item = found ∨
      (addNew Value.equal found item = found ++ [item] ∧
        ∀ other ∈ found, other.equal item = false) := by
  rcases addNew?_cases (addNew?_some Value.equal found item) with ⟨same, -⟩ | ⟨same, apart⟩
  · exact .inl same
  · exact .inr ⟨same, fun other held => Option.some.inj (apart other held)⟩

theorem Fields.Good.add {fields next : Fields} {node : Node} {fragment : Members}
    (good : fields.Good)
    (text : ∀ name type required notes, node = key name type required notes →
      name.text?.isSome = true)
    (added : fields.add node fragment = .ok next) : next.Good := by
  obtain ⟨name, type, required, notes, same, -, properties, names⟩ := Fields.add_eq_ok added
  obtain ⟨own, text⟩ := Option.isSome_iff_exists.mp (text name type required notes same)
  have kept : ∀ text ∈ fields.properties.names, text ∈ next.properties.names := by
    intro other held
    rw [properties, Members.names_insert text]
    split
    · exact held
    · exact List.mem_append_left _ held
  have there : own ∈ next.properties.names := by
    rw [properties, Members.names_insert text]
    split
    · assumption
    · simp
  have old : ∀ other ∈ fields.required, ∃ text, other.text? = some text ∧
      text ∈ next.properties.names := by
    intro other held
    obtain ⟨name, text, listed⟩ := good.listed other held
    exact ⟨name, text, kept name listed⟩
  refine ⟨properties ▸ good.named.insert text _, ?_, ?_⟩
  · rw [names]
    split
    · rcases addNew_cases fields.required name with same | ⟨same, apart⟩
      · rw [same]
        exact good.different
      · rw [same]
        have new : ∀ other ∈ fields.required, other.equalApart name = false :=
          fun other held => Value.equalApart_of_not_equal (apart other held)
        exact List.pairwise_append.mpr
          ⟨good.different, List.pairwise_singleton _ _, by simpa using new⟩
    · exact good.different
  · rw [names]
    split
    · rcases addNew_cases fields.required name with same | ⟨same, -⟩
      · rw [same]
        exact old
      · rw [same]
        intro other held
        rcases List.mem_append.mp held with held | held
        · exact old other held
        · exact ⟨own, List.mem_singleton.mp held ▸ text, there⟩
    · exact old

theorem visitFields_good {o : Options} {ctx : Context} {nodes : List Node} {found fields : Fields}
    (good : found.Good)
    (texts : ∀ name type required notes, key name type required notes ∈ nodes →
      name.text?.isSome = true)
    (visited : visitFields o ctx found nodes = .ok fields) : fields.Good := by
  induction nodes generalizing found with
  | nil =>
      obtain rfl := Except.ok.inj visited
      exact good
  | cons node rest ih =>
      simp only [visitFields, bind_eq_ok] at visited
      obtain ⟨fragment, -, next, added, later⟩ := visited
      refine ih (good.add (fun name type required notes same => ?_) added)
        (fun name type required notes held => ?_) later
      · exact texts name type required notes (same ▸ List.mem_cons_self)
      · exact texts name type required notes (List.mem_cons_of_mem _ held)

/-- The fields of a field set whose members have texts for names are its own. -/
theorem visitKeys_good {o : Options} {ctx : Context} {keys : Children} {fields : Fields}
    (texts : ∀ name type required notes, key name type required notes ∈ partsOfSlot keys →
      name.text?.isSome = true)
    (visited : visitKeys o ctx keys = .ok fields) : fields.Good := by
  cases keys with
  | nodes items =>
      refine visitFields_good Fields.Good.empty (fun name type required own held => ?_) visited
      exact texts name type required own (mem_partsOfEach.mpr ⟨_, held, mem_parts_self rfl⟩)
  | value v =>
      simp only [visitKeys, bind_eq_ok, pure_eq_ok] at visited
      obtain ⟨-, -, -, -, rfl⟩ := visited
      exact Fields.Good.empty

/-! ## Constraints -/

/-- A predicate gives nothing or one keyword of the table. -/
theorem predicateFragment_cases {o : Options} {leftType name operand : Value}
    {fragment : Members} (emitted : predicateFragment o leftType name operand = .ok fragment) :
    fragment = [] ∨ ∃ own c v, lookupName leftType name = some own ∧ constraint? own = some c ∧
      c.reading.apply operand = .ok v ∧ v.isNull = false ∧
      fragment = Fragment.ofKeywords [(c.keyword, v)] := by
  simp only [predicateFragment] at emitted
  split at emitted
  · cases emitted
  · split at emitted
    · split at emitted
      · exact .inl (Except.ok.inj emitted).symm
      · cases emitted
    · rename_i c found
      split at emitted
      · cases emitted
      · rename_i v applied
        obtain ⟨own, named, listed⟩ := Option.bind_eq_some_iff.mp found
        have same := (Except.ok.inj emitted).symm
        split at same
        · exact .inl same
        · rename_i written
          exact .inr ⟨own, c, v, named, listed, applied, by simpa using written, same⟩

/-- The table holds plain keywords and the two of types and of exclusions. -/
theorem constraint_cases {own : String} {c : Constraint} (listed : constraint? own = some c) :
    c.keyword ∈ plainKeywords ∨ c = ⟨"type", .typeName⟩ ∨ c = ⟨"not", .exclusion⟩ := by
  have each : ∀ entry ∈ constraints, entry.2.keyword ∈ plainKeywords ∨
      entry.2 = ⟨"type", .typeName⟩ ∨ entry.2 = ⟨"not", .exclusion⟩ := by decide
  exact each (own, c) (mem_constraints listed)

theorem typeName_listed (p : Primitive) : p.typeName ∈ Draft06.typeNames := by
  cases p <;> decide

/-- What a constraint puts under its keyword may stand there. -/
theorem entry_of_constraint {leaf : String → Value → Prop} {own : String} {c : Constraint}
    {operand v : Value} (listed : constraint? own = some c)
    (applied : c.reading.apply operand = .ok v) (written : v.isNull = false)
    (plain : c.keyword ∈ plainKeywords → leaf c.keyword v)
    (excluded : ∀ items, c.keyword = "not" → Operand.toItems operand = .ok items →
      leaf "enum" (.list items)) : Content leaf c.keyword v := by
  rcases constraint_cases listed with fits | rfl | rfl
  · exact Content.of_plain fits (plain fits)
  · obtain rfl := Except.ok.inj applied
    cases found : operand.toPrimitive? with
    | none => simp [found, Value.isNull] at written
    | some p => exact Content.of_type (typeName_listed p)
  · obtain ⟨items, converted, rfl⟩ := map_eq_ok.mp applied
    exact Content.of_exclusion (excluded items rfl converted)

/-! ## Visits -/

/-- What the nodes of a description bring along so that its fragments are sound. -/
structure Supplied (leaf : String → Value → Prop) (fits : Node → Prop) : Prop where
  note : ∀ {node members name v}, fits node → name ∈ annotationNames →
    node.notes = .dict members → Members.get? name members = some v → leaf name v
  reference : ∀ {node ref}, fits node → noteOr? node.notes "$ref" .null = some ref →
    ref.isNull = false → leaf "$ref" ref
  constraint : ∀ {name operand notes leftType own c v}, fits (predicate name operand notes) →
    lookupName leftType name = some own → constraint? own = some c →
    c.reading.apply operand = .ok v → v.isNull = false → Content leaf c.keyword v
  fieldName : ∀ {name type required notes}, fits (key name type required notes) →
    name.text?.isSome = true
  filled : ∀ {node}, fits node → node.filled = true

section Kept

variable {leaf : String → Value → Prop} {fits : Node → Prop}

theorem sound_nil : Sound leaf [] := by
  have flat : Sound leaf (Fragment.ofKeywords []) := Sound.of_flat (by simp) (by simp) (by simp)
  exact flat

theorem sound_typed (members : List (String × String))
    (leaves : Leaves leaf) (distinct : (members.map Prod.fst).Nodup)
    (each : ∀ member ∈ members,
      (member.1 = "type" ∧ member.2 ∈ Draft06.typeNames) ∨ member.1 = "format") :
    Sound leaf (members.map fun member => (.str member.1, .str member.2)) := by
  have names : (members.map fun member => (member.1, Value.str member.2)).map Prod.fst =
      members.map Prod.fst := by simp
  rw [map_str_eq_ofKeywords]
  refine Sound.of_flat (names ▸ distinct) (fun member held => ?_) fun name special held => ?_
  · obtain ⟨own, there, rfl⟩ := List.mem_map.mp held
    rcases each own there with ⟨key, listed⟩ | key
    · exact key ▸ Content.of_type listed
    · exact key ▸ Content.of_plain (by decide) (leaves.format own.2)
  · rw [names] at held
    obtain ⟨own, there, rfl⟩ := List.mem_map.mp held
    rcases each own there with ⟨key, -⟩ | key <;> simp [key] at special

theorem sound_nominal (leaves : Leaves leaf) (primitive : Value) :
    Sound leaf ((typeMembers? primitive).getD []) := by
  simp only [typeMembers?]
  cases primitive.toPrimitive? with
  | none => exact sound_nil
  | some p =>
      refine sound_typed p.entry leaves ?_ ?_
      · cases p <;> decide
      · cases p <;> decide

theorem sound_object (leaves : Leaves leaf) :
    Sound leaf (Fragment.ofKeywords [("type", .str "object")]) :=
  sound_typed [("type", "object")] leaves (by decide) (by decide)

theorem sound_reference {ref : Value} (inArray : Bool) (fit : leaf "$ref" ref) :
    Sound leaf (objectReference inArray ref) := by
  have plain : Content leaf "$ref" ref := Content.of_plain (by decide) fit
  cases inArray with
  | true => exact Sound.of_flat (by simp) (by simpa using plain) (by simp)
  | false =>
      refine Sound.of_flat (by simp) (List.forall_mem_cons.mpr ⟨?_, by simpa using plain⟩) (by simp)
      exact Content.of_type (by decide)

/-- The fragment of a union: that of its one alternative, that of one alternative beside
null, marked, or a list of all. -/
theorem sumFragment_cases (topLevel : Bool) (results : List Members) :
    results = [sumFragment topLevel results] ∨
      (topLevel = true ∧ ∃ result ∈ results,
        sumFragment topLevel results = Members.insert (.str "nullable") (.bool true) result) ∨
      (results.length ≠ 1 ∧ sumFragment topLevel results =
        Fragment.ofKeywords [("anyOf", .list (results.map Value.dict))]) := by
  match results with
  | [] => exact .inr (.inr ⟨by simp, rfl⟩)
  | [only] => exact .inl rfl
  | [a, b] =>
      simp only [sumFragment]
      split
      · rename_i marked
        refine .inr (.inl ⟨(Bool.and_eq_true_iff.mp marked).1, ?_⟩)
        split
        · exact ⟨b, by simp, rfl⟩
        · exact ⟨a, by simp, rfl⟩
      · exact .inr (.inr ⟨by simp, rfl⟩)
  | a :: b :: c :: rest => exact .inr (.inr ⟨by simp, rfl⟩)

/-- The schemas in a list of alternatives are these. -/
theorem mem_of_child_alternatives {results : List Members} {child : Members}
    (held : Child (Fragment.ofKeywords [("anyOf", .list (results.map Value.dict))]) child) :
    child ∈ results := by
  cases held with
  | element found => simpa using mem_of_get?_ofKeywords found
  | field found held => simpa using mem_of_get?_ofKeywords found
  | alternative found held =>
      obtain rfl : _ = results.map Value.dict := by simpa using mem_of_get?_ofKeywords found
      obtain ⟨result, there, same⟩ := List.mem_map.mp held
      exact Value.dict.inj same ▸ there

theorem sound_sum (leaves : Leaves leaf) {topLevel : Bool} {results : List Members}
    (some : results ≠ []) (apart : Different (results.map Value.dict))
    (each : ∀ result ∈ results, Sound leaf result) : Sound leaf (sumFragment topLevel results) := by
  rcases sumFragment_cases topLevel results with only | ⟨-, result, held, marked⟩ | ⟨many, listed⟩
  · exact each _ (only ▸ List.mem_singleton_self _)
  · rw [marked]
    exact (each result held).insert (by decide) leaves.nullable
  · have two : 2 ≤ results.length := by
      have filled := List.length_pos_of_ne_nil some
      omega
    rw [listed]
    refine Sound.of_keywords (by simp) ?_ (by simp) fun child held => ?_
    · simpa using Content.of_alternatives (by simpa using two) apart (by simp)
    · exact each child (mem_of_child_alternatives held)

/-- Annotations are plain keywords with what the notes hold. -/
theorem annotations_plain {names : List String} (listed : names.Sublist annotationNames)
    (supplied : Supplied leaf fits) {node : Node} (fit : fits node) {own : Members}
    (picked : annotations names node.notes = some own) :
    ∀ member ∈ own, ∃ name ∈ plainKeywords, member.1 = .str name ∧ leaf name member.2 := by
  intro member held
  have different : annotationNames.Nodup := by decide
  obtain ⟨name, mem, key, members, notes, found⟩ :=
    mem_annotations (different.sublist listed) picked held
  have plain : ∀ name ∈ annotationNames, name ∈ plainKeywords := by decide
  have known := listed.subset mem
  exact ⟨name, plain name known, key, supplied.note fit known notes found⟩

/-- The annotations of a node can be laid over a fragment. -/
theorem sound_noted (supplied : Supplied leaf fits) {node : Node} {fragment whole : Members}
    (fit : fits node) (sound : Sound leaf fragment)
    (noted : overlay fragment node.notes = some whole) : Sound leaf whole := by
  obtain ⟨own, picked, rfl⟩ := Option.map_eq_some_iff.mp noted
  exact sound.update (annotations_plain (List.Sublist.refl _) supplied fit picked)

/-- What taking some keywords away keeps is kept when notes of their names are. -/
theorem of_without {holds : Members → Prop} {names : List String}
    (erased : ∀ members, holds members → ∀ name ∈ names,
      holds (Members.erase (.str name) members)) {hoisted items left : Members}
    (listed : ∀ member ∈ hoisted, ∃ name ∈ names, member.1 = .str name) (held : holds items)
    (taken : hoisted.foldlM withoutNote? items = some left) : holds left := by
  induction hoisted generalizing items with
  | nil =>
      obtain rfl := Option.some.inj taken
      exact held
  | cons member rest ih =>
      obtain ⟨⟨name, known, key⟩, others⟩ := List.forall_mem_cons.mp listed
      simp only [List.foldlM_cons, Option.bind_eq_bind, Option.bind_eq_some_iff] at taken
      obtain ⟨next, first, later⟩ := taken
      refine ih others ?_ later
      simp only [withoutNote?] at first
      split at first
      · cases first
      · obtain rfl := Option.some.inj first
        split
        · exact held
        · exact key ▸ erased items held name known

/-- The schema in the fragment of a list is that of the elements. -/
theorem eq_of_child_array {items child : Members}
    (held : Child (Fragment.ofKeywords [("type", .str "array"), ("items", .dict items)]) child) :
    child = items := by
  cases held with
  | element found => simpa using mem_of_get?_ofKeywords found
  | field found held => simpa using mem_of_get?_ofKeywords found
  | alternative found held => simpa using mem_of_get?_ofKeywords found

/-- The fragment of a list, with the title and the description of its elements. -/
theorem sound_array (supplied : Supplied leaf fits) {member : Node}
    {items fragment : Members} (fit : fits member) (sound : Sound leaf items)
    (built : arrayFragment items member.notes = .ok fragment) : Sound leaf fragment := by
  simp only [arrayFragment, bind_eq_ok, typed_eq_ok, decided_eq_ok, pure_eq_ok] at built
  obtain ⟨hoisted, picked, left, taken, rfl⟩ := built
  have plain := annotations_plain (by decide) supplied fit picked
  refine Sound.update ?_ plain
  have leftSound : Sound leaf left := of_without (fun members sound name listed => sound.erase listed)
    (fun member held => (plain member held).imp fun _ found => ⟨found.1, found.2.1⟩) sound taken
  refine Sound.of_keywords (by simp) ?_ (by simp) fun child held => ?_
  · simpa using ⟨Content.of_type (by decide), Content.of_element left⟩
  · exact eq_of_child_array held ▸ leftSound

/-- The schemas in the fragment of a field set are those of the fields. -/
theorem mem_of_child_fields {fields : Fields} {child : Members}
    (held : Child fields.fragment child) : ∃ property ∈ fields.properties, property.2 = .dict child := by
  have entry {name : String} {v : Value} (found : Members.get? name fields.fragment = some v) :
      (name = "properties" ∧ v = .dict fields.properties) ∨ name = "type" ∨ name = "required" := by
    have there := mem_of_get?_ofKeywords found
    split at there <;> simp at there <;> tauto
  cases held with
  | element found => simpa using entry found
  | alternative found held => simpa using entry found
  | field found held =>
      obtain rfl : _ = fields.properties := by simpa using entry found
      obtain ⟨key, -, there⟩ := Members.mem_of_get? held
      exact ⟨_, there, rfl⟩

/-- The fragment of a field set. -/
theorem sound_fields {fields : Fields} (good : fields.Good)
    (each : ∀ property ∈ fields.properties, ∃ fragment, property.2 = .dict fragment ∧
      Sound leaf fragment) : Sound leaf fields.fragment := by
  have dicts : ∀ property ∈ fields.properties, ∃ fragment, property.2 = .dict fragment :=
    fun property held => (each property held).imp fun _ found => found.1
  have below : ∀ child, Child fields.fragment child → Sound leaf child := by
    intro child held
    obtain ⟨property, there, own⟩ := mem_of_child_fields held
    obtain ⟨fragment, same, sound⟩ := each property there
    exact Value.dict.inj (same.symm.trans own) ▸ sound
  have type : Content leaf "type" (.str "object") := Content.of_type (by decide)
  have properties : Content leaf "properties" (.dict fields.properties) :=
    Content.of_fields good.named dicts
  revert below
  simp only [Fields.fragment]
  split
  · intro below
    refine Sound.of_keywords (by simp) ?_ (by simp) below
    simpa using ⟨type, properties⟩
  · rename_i some
    intro below
    refine Sound.of_keywords (by simp) ?_ ?_ below
    · have required : Content leaf "required" (.list fields.required) := by
        refine Content.of_required (by simpa using some) good.different fun own held => ?_
        obtain ⟨text, found, -⟩ := good.listed own held
        simp [found]
      simpa using ⟨type, properties, required⟩
    · intro names held own mem text found
      obtain rfl : names = fields.required := by simpa using held
      obtain ⟨other, found', listed⟩ := good.listed own mem
      obtain rfl : other = text := Option.some.inj (found'.symm.trans found)
      simpa [fieldNames, Fragment.ofKeywords, Members.named, Members.get?_cons, Value.text?] using listed

/-- Every way in which a visit makes a fragment keeps it sound. -/
theorem sound_kept (o : Options) (leaves : Leaves leaf) (supplied : Supplied leaf fits) :
    Kept o fits fun _ => Sound leaf where
  nominal _ primitive := sound_nominal leaves primitive
  predicate {ctx name operand notes fragment} fit emitted := by
    rcases predicateFragment_cases emitted with
      rfl | ⟨own, c, v, named, listed, applied, written, rfl⟩
    · exact sound_nil
    · have entry := supplied.constraint fit named listed applied written
      have flat : ∀ other ∈ ["items", "properties", "anyOf", "required"], other ≠ c.keyword := by
        intro other special same
        have apart : ∀ entry ∈ constraints,
            entry.2.keyword ∉ ["items", "properties", "anyOf", "required"] := by decide
        exact apart (own, c) (mem_constraints listed) (same ▸ special)
      refine Sound.of_flat (by simp) (by simpa using entry) fun other special held => ?_
      exact flat other special (by simpa using held)
  object _ := sound_object leaves
  wrapped sound := sound
  field _ sound := sound
  joined base extra joins := Sound.merge leaves base extra joins
  sum fit gathered each :=
    sound_sum leaves
      (visitAlternatives_ne_nil (fun part held => supplied.filled (fit part held)) gathered)
      (visitAlternatives_different gathered) each
  reference _ inArray fit found inForce :=
    sound_reference inArray (supplied.reference fit found inForce)
  array fit sound built := sound_array supplied fit sound built
  schema {ctx keys notes fields} fit listed each := by
    have inside : ∀ property ∈ fields.properties, ∃ fragment, property.2 = .dict fragment ∧
        Sound leaf fragment := by
      intro property held
      obtain ⟨fragment, same, _, _, _, _, -, sound⟩ := each property held
      exact ⟨fragment, same, sound⟩
    refine sound_fields (visitKeys_good (fun name type required own held => ?_) listed) inside
    exact supplied.fieldName (fit _ (List.mem_cons_of_mem _ held))
  noted fit sound noted := sound_noted supplied fit sound noted

end Kept

/-- The fragment of every visit is sound. -/
theorem visit_sound {o : Options} {leaf : String → Value → Prop} {fits : Node → Prop}
    (leaves : Leaves leaf) (supplied : Supplied leaf fits) {node : Node} {fragment : Members}
    (fit : ∀ part ∈ node.parts, fits part)
    (visited : visit o Context.root node = .ok fragment) : Sound leaf fragment :=
  (sound_kept o leaves supplied).visit Context.Within.root fit visited

end Node

end Draftsman
