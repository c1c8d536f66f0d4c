/-
# Draftsman.Proofs.Proper -- dictionaries with one member for a key

A description whose dictionaries have different keys is compiled to fragments whose dictionaries
have (`proper_kept`): members are written by key (`Members.isProper_insert`), and joining writes
member after member (`Fragment.isProper_merge`).  So fragments can be compared either way round,
and they are equal exactly if they are so name by name (`Fragment.equal_iff_sameByName`).
-/
import Draftsman.Proofs.Contents
import Draftsman.Proofs.Equivalence
import Draftsman.Proofs.SizeBounds

namespace Draftsman

set_option autoImplicit false

open Value

/-! ## Dictionaries -/

namespace Members

theorem has_of_equal {key other : Value} {members : Members}
    (held : other ∈ members.map Prod.fst) (same : key.equal other = true) :
    has key members = true := by
  induction members with
  | nil => cases held
  | cons member rest ih =>
      by_cases first : key.equal member.1 = true
      · simp [has, lookup, first]
      · rcases List.mem_cons.mp held with rfl | later
        · exact absurd same first
        · simpa [has, lookup, first] using ih later

/-- Writing under a key keeps the keys different. -/
theorem different_insert {key : Value} {members : Members}
    (different : Unequal (members.map Prod.fst))
    (each : ∀ member ∈ members, member.1.isProper = true) (proper : key.isProper = true)
    (value : Value) : Unequal ((insert key value members).map Prod.fst) := by
  rw [map_fst_insert]
  split
  · simpa using different
  · rename_i fresh
    refine List.pairwise_append.mpr ⟨different, List.pairwise_singleton _ _, ?_⟩
    rintro other held _ own
    rw [List.mem_singleton.mp own, Bool.eq_false_iff]
    intro same
    obtain ⟨member, there, rfl⟩ := List.mem_map.mp held
    exact fresh (has_of_equal held (equal_symm _ (each member there) proper same))

theorem isProper_insert {key value : Value} {members : Members}
    (proper : (dict members).isProper = true) (keyProper : key.isProper = true)
    (valueProper : value.isProper = true) : (dict (insert key value members)).isProper = true := by
  obtain ⟨different, each⟩ := isProper_dict.mp proper
  refine isProper_dict.mpr
    ⟨different_insert different (fun member held => (each member held).1) keyProper value,
      fun member held => ?_⟩
  rcases mem_insert held with old | ⟨same, own | ⟨old, there, keys⟩⟩
  · exact each member old
  · exact ⟨own ▸ keyProper, same ▸ valueProper⟩
  · exact ⟨keys ▸ (each old there).1, same ▸ valueProper⟩

theorem isProper_update {members others : Members} (proper : (dict members).isProper = true)
    (each : ∀ member ∈ others, member.1.isProper = true ∧ member.2.isProper = true) :
    (dict (update members others)).isProper = true := by
  induction others generalizing members with
  | nil => exact proper
  | cons member rest ih =>
      obtain ⟨own, later⟩ := List.forall_mem_cons.mp each
      exact ih (isProper_insert proper own.1 own.2) later

theorem erase_sublist (key : Value) (members : Members) : (erase key members).Sublist members := by
  induction members with
  | nil => exact .slnil
  | cons member rest ih =>
      rw [erase]
      split
      · exact List.sublist_cons_self _ _
      · exact ih.cons_cons _

theorem isProper_erase {members : Members} (proper : (dict members).isProper = true)
    (key : Value) : (dict (erase key members)).isProper = true := by
  obtain ⟨different, each⟩ := isProper_dict.mp proper
  have shorter := erase_sublist key members
  exact isProper_dict.mpr ⟨different.sublist (shorter.map _),
    fun member held => each member (shorter.subset held)⟩

theorem isProper_lookup {key v : Value} {members : Members}
    (proper : (dict members).isProper = true) (found : lookup key members = some v) :
    v.isProper = true := by
  obtain ⟨own, held⟩ := mem_of_lookup found
  exact ((isProper_dict.mp proper).2 _ held).2

/-- The keys of a dictionary that are different texts are not equal. -/
theorem Named.different {members : Members} (named : members.Named) :
    Unequal (members.map Prod.fst) := by
  induction members with
  | nil => exact List.Pairwise.nil
  | cons member rest ih =>
      obtain ⟨name, text, fresh⟩ := named.head
      refine List.pairwise_cons.mpr ⟨fun key held => ?_, ih named.tail⟩
      obtain ⟨other, there, rfl⟩ := List.mem_map.mp held
      rw [equal_of_text? text, beq_eq_false_iff_ne]
      exact fun same => fresh (mem_names.mpr ⟨other, there, same⟩)

theorem Named.isProper {members : Members} (named : members.Named)
    (each : ∀ member ∈ members, member.2.isProper = true) : (dict members).isProper = true := by
  refine isProper_dict.mpr ⟨named.different, fun member held => ⟨?_, each member held⟩⟩
  obtain ⟨name, text⟩ := Option.isSome_iff_exists.mp (named.texts member held)
  cases key : member.1 <;> first | rfl | simp [key, text?] at text

end Members

theorem isProper_ofKeywords {members : List (String × Value)}
    (different : (members.map Prod.fst).Nodup)
    (each : ∀ member ∈ members, member.2.isProper = true) :
    (dict (Fragment.ofKeywords members)).isProper = true := by
  refine (Document.named_ofKeywords different).isProper fun member held => ?_
  obtain ⟨own, there, rfl⟩ := List.mem_map.mp held
  exact each own there

/-! ## Equal fragments -/

theorem Members.Named.length_names {members : Members} (named : members.Named) :
    members.names.length = members.length := by
  induction members with
  | nil => rfl
  | cons member rest ih =>
      obtain ⟨name, text, -⟩ := named.head
      rw [names_cons_of_text text, List.length_cons, List.length_cons, ih named.tail]

namespace Fragment

open Members

variable {first second : Members}

/-- Under every name, equal values or nothing. -/
def SameByName (first second : Members) : Prop :=
  ∀ name, Option.Rel (fun v w => v.equal w = true) (get? name first) (get? name second)

theorem SameByName.mem_names (same : SameByName first second) (name : String) :
    name ∈ first.names ↔ name ∈ second.names := by
  rw [← get?_isSome, ← get?_isSome]
  have rel := same name
  generalize get? name first = v at rel
  generalize get? name second = w at rel
  cases rel <;> simp

/-- What stands under a name of a fragment stands under it in an equal one. -/
theorem get?_of_equal (named' : second.Named) (same : equal first second = true) {name : String}
    {v : Value} (found : get? name first = some v) :
    ∃ w, get? name second = some w ∧ v.equal w = true := by
  obtain ⟨key, text, held⟩ := mem_of_get? found
  obtain ⟨-, each⟩ := equal_dict_iff.mp same
  obtain ⟨other, there, keys, values⟩ := each _ held
  rw [equal_of_text? text, beq_iff_eq] at keys
  exact ⟨other.2, named'.get?_of_mem keys there, values⟩

/-- Fragments are equal exactly if they are so name by name. -/
theorem equal_iff_sameByName (named : first.Named) (named' : second.Named) :
    equal first second = true ↔ SameByName first second := by
  constructor
  · intro same name
    cases found : get? name first with
    | some v =>
        obtain ⟨w, there, values⟩ := get?_of_equal named' same found
        exact there ▸ .some values
    | none =>
        -- there are as many names in both, so that none is left over
        have among : first.names ⊆ second.names := fun own held => by
          obtain ⟨v, found⟩ := Option.isSome_iff_exists.mp (get?_isSome.mpr held)
          obtain ⟨w, there, -⟩ := get?_of_equal named' same found
          exact get?_isSome.mp (there ▸ rfl)
        have few : second.names.length ≤ first.names.length := by
          rw [named.length_names, named'.length_names, (equal_dict_iff.mp same).1]
        have whole := (List.subperm_of_subset named.distinct among).perm_of_length_le few
        have absent : name ∉ second.names :=
          fun held => get?_eq_none_iff.mp found (whole.mem_iff.mpr held)
        rw [get?_eq_none_iff.mpr absent]
        exact .none
  · intro same
    refine equal_dict_iff.mpr ⟨?_, fun member held => ?_⟩
    · rw [← named.length_names, ← named'.length_names]
      exact ((List.perm_ext_iff_of_nodup named.distinct named'.distinct).mpr
        same.mem_names).length_eq
    · obtain ⟨name, text⟩ := Option.isSome_iff_exists.mp (named.texts member held)
      obtain ⟨w, there, values⟩ : ∃ w, get? name second = some w ∧ member.2.equal w = true := by
        have rel := same name
        rw [named.get?_of_mem text held] at rel
        generalize get? name second = there at rel
        cases rel with
        | some values => exact ⟨_, rfl, values⟩
      obtain ⟨key, text', held'⟩ := mem_of_get? there
      exact ⟨(key, w), held', by rw [equal_of_text? text, text', beq_self_eq_true], values⟩

theorem SameByName.insert (same : SameByName first second) (name : String) (v : Value) :
    SameByName (Members.insert (.str name) v first) (Members.insert (.str name) v second) := by
  intro other
  rw [get?_insert rfl, get?_insert rfl]
  split
  · exact .some (equal_self v)
  · exact same other

theorem SameByName.update (same : SameByName first second) {own : Members} (named : own.Named) :
    SameByName (Members.update first own) (Members.update second own) := by
  intro name
  rw [get?_update named, get?_update named]
  cases get? name own with
  | some v => exact .some (equal_self v)
  | none => exact same name

end Fragment

/-! ## Joining -/

namespace Fragment

mutual

/-- Joining keeps dictionaries proper. -/
theorem isProper_merge : ∀ (right : Members) {left both : Members},
    (dict left).isProper = true →
      (∀ member ∈ right, member.1.isProper = true ∧ member.2.isProper = true) →
      merge? left right = some both → (dict both).isProper = true
  | [], _, _, leftProper, _, joined => by
      obtain rfl := merge?_nil.mp joined
      exact leftProper
  | (key, value) :: rest, left, both, leftProper, rightProper, joined => by
      obtain ⟨⟨keyProper, valueProper⟩, restProper⟩ := List.forall_mem_cons.mp rightProper
      obtain ⟨here, done, later⟩ := merge?_cons.mp joined
      have hereProper := isProper_join value
        (fun there found => Members.isProper_lookup leftProper found) valueProper done
      exact isProper_merge rest (Members.isProper_insert leftProper keyProper hereProper)
        restProper later

theorem isProper_join : ∀ (value : Value) {current : Option Value} {joined : Value},
    (∀ there, current = some there → there.isProper = true) → value.isProper = true →
      join? current value = some joined → joined.isProper = true
  | .dict right, current, joined, thereProper, valueProper, done => by
      simp only [join?] at done
      split at done
      · rename_i left
        obtain ⟨both, merged, rfl⟩ := Option.map_eq_some_iff.mp done
        exact isProper_merge right (thereProper _ rfl) (isProper_dict.mp valueProper).2 merged
      · exact Option.some.inj done ▸ valueProper
  | .list right, current, joined, thereProper, valueProper, done => by
      simp only [join?] at done
      split at done
      · rename_i left
        obtain ⟨kept, unique, rfl⟩ := Option.map_eq_some_iff.mp done
        refine areProper_iff.mpr fun item held => ?_
        rcases List.mem_append.mp (unique?_mem unique held) with old | new
        · exact areProper_iff.mp (thereProper _ rfl) item old
        · exact areProper_iff.mp valueProper item new
      · exact Option.some.inj done ▸ valueProper
  | .null, _, _, _, proper, done | .bool _, _, _, _, proper, done | .int _, _, _, _, proper, done
  | .float _, _, _, _, proper, done | .str _, _, _, _, proper, done
  | .decimal _, _, _, _, proper, done | .primitive _, _, _, _, proper, done
  | .host _, _, _, _, proper, done | .pattern _, _, _, _, proper, done
  | .tuple _, _, _, _, proper, done | .set _, _, _, _, proper, done => by
      obtain rfl := Option.some.inj done
      exact proper

end

end Fragment

/-! ## Operands -/

theorem carried_proper : Carried fun v => v.isProper = true where
  null := rfl
  int _ := rfl
  float _ := rfl
  text _ := rfl
  list := areProper_iff.mpr
  exclusion proper := isProper_ofKeywords (by simp) (List.forall_mem_singleton.mpr proper)
  inside := by
    rintro items (proper | proper | proper)
    · exact areProper_iff.mp proper
    · exact areProper_iff.mp proper
    · exact (isProper_set.mp proper).2
  keys proper member held := ((isProper_dict.mp proper).2 member held).1

/-! ## Visits -/

namespace Node

/-- A node whose values are as they should be: no dictionary has two members for a key. -/
structure ProperValues (node : Node) : Prop where
  notes : node.notes.isProper = true
  operand : ∀ {name operand notes}, node = predicate name operand notes → operand.isProper = true
  fieldName : ∀ {name type required notes}, node = key name type required notes →
    name.isProper = true

theorem ProperValues.note {node : Node} (proper : node.ProperValues) {members : Members}
    {name : String} {v : Value} (same : node.notes = .dict members)
    (found : Members.get? name members = some v) : v.isProper = true :=
  Members.isProper_lookup (same ▸ proper.notes) found

theorem ProperValues.brings {node : Node} (proper : node.ProperValues) :
    node.Brings (fun key => key.isProper = true) fun v => v.isProper = true where
  note same found := proper.note same found
  operand same _ applied := carried_proper.reading (proper.operand same) applied
  fieldName same _ := ⟨proper.fieldName same, proper.fieldName same⟩

theorem annotations_proper {names : List String} (different : names.Nodup) {node : Node}
    (proper : node.ProperValues) {own : Members}
    (picked : annotations names node.notes = some own) :
    ∀ member ∈ own, member.1.isProper = true ∧ member.2.isProper = true := by
  intro member held
  obtain ⟨name, -, key, members, same, found⟩ := mem_annotations different picked held
  exact ⟨key ▸ rfl, proper.note same found⟩

theorem without_proper {hoisted items left : Members} (proper : (dict items).isProper = true)
    (taken : hoisted.foldlM withoutNote? items = some left) : (dict left).isProper = true := by
  induction hoisted generalizing items with
  | nil => exact Option.some.inj taken ▸ proper
  | cons note rest ih =>
      simp only [List.foldlM_cons, Option.bind_eq_bind, Option.bind_eq_some_iff] at taken
      obtain ⟨next, first, later⟩ := taken
      refine ih ?_ later
      simp only [withoutNote?] at first
      split at first
      · cases first
      · obtain rfl := Option.some.inj first
        split
        · exact proper
        · exact Members.isProper_erase proper note.1

theorem sumFragment_proper {topLevel : Bool} {results : List Members}
    (each : ∀ result ∈ results, (dict result).isProper = true) :
    (dict (sumFragment topLevel results)).isProper = true := by
  rcases sumFragment_cases topLevel results with only | ⟨-, result, held, marked⟩ | ⟨-, listed⟩
  · exact each _ (only ▸ List.mem_singleton_self _)
  · rw [marked]
    exact Members.isProper_insert (each result held) rfl rfl
  · rw [listed]
    refine isProper_ofKeywords (by simp) (List.forall_mem_singleton.mpr (areProper_iff.mpr ?_))
    exact fun item held => by
      obtain ⟨result, there, rfl⟩ := List.mem_map.mp held
      exact each result there

/-- The fields gathered in a field set have different names. -/
theorem visitFields_different {o : Options} {ctx : Context} {nodes : List Node}
    {found fields : Fields} (each : ∀ part ∈ partsOfEach nodes, part.ProperValues)
    (different : Unequal (found.properties.map Prod.fst))
    (keysProper : ∀ property ∈ found.properties, property.1.isProper = true)
    (visited : visitFields o ctx found nodes = .ok fields) :
    Unequal (fields.properties.map Prod.fst) := by
  induction nodes generalizing found with
  | nil =>
      obtain rfl := Except.ok.inj visited
      exact different
  | cons node rest ih =>
      obtain ⟨first, others⟩ := List.forall_mem_append.mp each
      simp only [visitFields, bind_eq_ok] at visited
      obtain ⟨fragment, single, next, added, later⟩ := visited
      have own := first node (mem_parts_self (isNode_of_visit single))
      obtain ⟨name, type, required, notes, same, -, properties, -⟩ := Fields.add_eq_ok added
      have nameProper := own.fieldName same
      refine ih others ?_ ?_ later
      · rw [properties]
        exact Members.different_insert different keysProper nameProper _
      · rw [properties]
        intro property held
        rcases Members.mem_insert held with old | ⟨-, key | ⟨old, there, keys⟩⟩
        · exact keysProper property old
        · exact key ▸ nameProper
        · exact keys ▸ keysProper old there

theorem visitKeys_different {o : Options} {ctx : Context} {keys : Children} {fields : Fields}
    (each : ∀ part ∈ partsOfSlot keys, part.ProperValues)
    (visited : visitKeys o ctx keys = .ok fields) :
    Unequal (fields.properties.map Prod.fst) := by
  cases keys with
  | nodes items => exact visitFields_different each List.Pairwise.nil (by simp) visited
  | value v =>
      simp only [visitKeys, bind_eq_ok, pure_eq_ok] at visited
      obtain ⟨-, -, -, -, rfl⟩ := visited
      exact List.Pairwise.nil

theorem objectReference_proper {ref : Value} (proper : ref.isProper = true) (inArray : Bool) :
    (dict (objectReference inArray ref)).isProper = true := by
  cases inArray with
  | true => exact isProper_ofKeywords (by simp) (List.forall_mem_singleton.mpr proper)
  | false =>
      exact isProper_ofKeywords (by simp)
        (List.forall_mem_cons.mpr ⟨rfl, List.forall_mem_singleton.mpr proper⟩)

theorem fragment_proper {fields : Fields}
    (names : fields.NamesFit (fun key => key.isProper = true) fun v => v.isProper = true)
    (different : Unequal (fields.properties.map Prod.fst))
    (each : ∀ property ∈ fields.properties, property.2.isProper = true) :
    (dict fields.fragment).isProper = true := by
  have properties : (dict fields.properties).isProper = true :=
    isProper_dict.mpr ⟨different, fun property held =>
      ⟨names.properties property held, each property held⟩⟩
  have required : (list fields.required).isProper = true := areProper_iff.mpr names.required
  rw [Fields.fragment]
  split
  · exact isProper_ofKeywords (by simp)
      (List.forall_mem_cons.mpr ⟨rfl, List.forall_mem_singleton.mpr properties⟩)
  · exact isProper_ofKeywords (by simp) (List.forall_mem_cons.mpr
      ⟨rfl, List.forall_mem_cons.mpr ⟨properties, List.forall_mem_singleton.mpr required⟩⟩)

/-- Every way in which a visit makes a fragment keeps dictionaries proper. -/
theorem proper_kept (o : Options) :
    Kept o ProperValues fun _ fragment => (dict fragment).isProper = true where
  nominal _ primitive := by
    refine ((named_kept o).nominal default primitive).isProper fun member held => ?_
    cases found : primitive.toPrimitive? with
    | none => simp [typeMembers?, found] at held
    | some p =>
        rw [typeMembers?, found, Option.map_some, Option.getD_some] at held
        obtain ⟨own, -, rfl⟩ := List.mem_map.mp held
        rfl
  predicate proper emitted := by
    rcases predicateFragment_cases emitted with rfl | ⟨own, c, v, -, -, applied, -, rfl⟩
    · rfl
    · exact isProper_ofKeywords (by simp)
        (List.forall_mem_singleton.mpr (carried_proper.reading (proper.operand rfl) applied))
  object _ := by decide
  wrapped proper := proper
  field _ proper := proper
  joined base extra joins := Fragment.isProper_merge _ base (isProper_dict.mp extra).2 joins
  sum _ _ each := sumFragment_proper each
  reference {node ref} _ inArray proper found other := by
    obtain ⟨members, notes, same⟩ := noteOr?_eq_some found
    refine objectReference_proper ?_ inArray
    cases there : Members.get? "$ref" members with
    | none =>
        rw [there, Option.getD_none] at same
        rw [← same] at other
        cases other
    | some v =>
        rw [there, Option.getD_some] at same
        exact same ▸ proper.note notes there
  array {ctx member items fragment} proper fits built := by
    simp only [arrayFragment, bind_eq_ok, typed_eq_ok, decided_eq_ok, pure_eq_ok] at built
    obtain ⟨hoisted, picked, left, taken, rfl⟩ := built
    refine Members.isProper_update (isProper_ofKeywords (by simp) ?_)
      (annotations_proper (by decide) proper picked)
    exact List.forall_mem_cons.mpr
      ⟨rfl, List.forall_mem_singleton.mpr (without_proper fits taken)⟩
  schema {ctx keys notes fields} proper listed each := by
    have slots := (List.forall_mem_cons.mp proper).2
    refine fragment_proper
      (visitKeys_namesFit (fun part held => (slots part held).brings) listed)
      (visitKeys_different slots listed) fun property held => ?_
    obtain ⟨fragment, same, _, _, _, _, -, fits⟩ := each property held
    exact same ▸ fits
  noted proper fits noted := by
    obtain ⟨own, picked, rfl⟩ := Option.map_eq_some_iff.mp noted
    exact Members.isProper_update fits (annotations_proper (by decide) proper picked)

end Node

end Draftsman
