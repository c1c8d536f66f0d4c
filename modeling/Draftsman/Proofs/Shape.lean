/-
# Draftsman.Proofs.Shape -- the shape of documents

The schema positions of a document are the document itself and whatever stands at its
`properties`, `items` and `anyOf`, level by level (`Child`, `Position`).  What one position
has to hold is said keyword by keyword (`Content`), with one condition that ties two
keywords together: required names are names of `properties` (`Good.within`).  A fragment
is sound when all of its positions are good.

What a keyword without schemas may hold is left open (`leaf`); it has to be something that
joining keeps (`Leaves`).  The main results are that sound fragments stay sound when

* two of them are joined (`Sound.merge`);
* a plain keyword is written or taken away (`Sound.insert`, `Sound.update`, `Sound.erase`).
-/
import Draftsman.Draft06
import Draftsman.Proofs.Joining
import Mathlib.Logic.Relation

namespace Draftsman.Document

set_option autoImplicit false

open Members

/-! ## Positions -/

def shapedKeywords : List String :=
  ["type", "anyOf", "items", "properties", "required", "not"]

def plainKeywords : List String :=
  ["format", "title", "description", "nullable", "$ref", "const", "enum", "minLength",
    "maxLength", "minItems", "maxItems", "minimum", "maximum", "exclusiveMinimum",
    "exclusiveMaximum"]

def keywords : List String := shapedKeywords ++ plainKeywords

/-- A schema that stands in another one. -/
inductive Child : Members → Members → Prop where
  | element {members inner : Members} (found : get? "items" members = some (.dict inner)) :
      Child members inner
  | field {members fields inner : Members} {name : String}
      (found : get? "properties" members = some (.dict fields))
      (held : get? name fields = some (.dict inner)) : Child members inner
  | alternative {members inner : Members} {items : List Value}
      (found : get? "anyOf" members = some (.list items)) (held : .dict inner ∈ items) :
      Child members inner

/-- A schema position of a document. -/
abbrev Position : Members → Members → Prop := Relation.ReflTransGen Child

/-- The schemas in a fragment stand at keywords of shape, so they do not depend on others. -/
theorem Child.of_get? {members others child : Members}
    (same : ∀ name ∈ shapedKeywords, get? name others = get? name members)
    (held : Child others child) : Child members child := by
  cases held with
  | element found => exact .element (by rwa [← same "items" (by decide)])
  | field found held => exact .field (by rwa [← same "properties" (by decide)]) held
  | alternative found held => exact .alternative (by rwa [← same "anyOf" (by decide)]) held

/-! ## What a position holds -/

/-- What one keyword holds, apart from the schemas in it. -/
structure Content (leaf : String → Value → Prop) (name : String) (v : Value) : Prop where
  known : name ∈ keywords
  type : name = "type" → ∃ typeName ∈ Draft06.typeNames, v = .str typeName
  alternatives : name = "anyOf" → ∃ items, v = .list items ∧ 2 ≤ items.length ∧
    Different items ∧ ∀ item ∈ items, ∃ inner, item = .dict inner
  element : name = "items" → ∃ inner, v = .dict inner
  fields : name = "properties" → ∃ fields, v = .dict fields ∧ Named fields ∧
    ∀ field ∈ fields, ∃ inner, field.2 = .dict inner
  required : name = "required" → ∃ names, v = .list names ∧ names ≠ [] ∧ Different names ∧
    ∀ own ∈ names, own.text?.isSome = true
  exclusion : name = "not" →
    ∃ items, v = .dict [(.str "enum", .list items)] ∧ leaf "enum" (.list items)
  plain : name ∈ plainKeywords → leaf name v

def fieldNames (members : Members) : List String :=
  match get? "properties" members with
  | some (.dict fields) => Members.names fields
  | _ => []

/-- What one position holds, apart from the schemas in it. -/
structure Good (leaf : String → Value → Prop) (members : Members) : Prop where
  keys : ∀ member ∈ members, ∃ name, member.1 = .str name
  distinct : members.names.Nodup
  entries : ∀ {name v}, get? name members = some v → Content leaf name v
  within : ∀ {names}, get? "required" members = some (.list names) →
    ∀ own ∈ names, ∀ text, own.text? = some text → text ∈ fieldNames members

/-- A fragment of which every position is good. -/
def Sound (leaf : String → Value → Prop) (members : Members) : Prop :=
  ∀ inner, Position members inner → Good leaf inner

/-- What is asked of the values of plain keywords so that fragments can be joined. -/
structure Leaves (leaf : String → Value → Prop) : Prop where
  join : ∀ {name old new both}, name ∈ plainKeywords → leaf name old → leaf name new →
    Fragment.join? (some old) new = some both → leaf name both
  nullable : leaf "nullable" (.bool true)
  format : ∀ text, leaf "format" (.str text)

variable {leaf : String → Value → Prop}

theorem sound_iff {members : Members} :
    Sound leaf members ↔ Good leaf members ∧ ∀ child, Child members child → Sound leaf child := by
  constructor
  · intro sound
    exact ⟨sound _ .refl, fun child held inner below => sound _ (.head held below)⟩
  · rintro ⟨good, below⟩ inner position
    rcases Relation.ReflTransGen.cases_head position with rfl | ⟨child, held, later⟩
    · exact good
    · exact below child held inner later

theorem Good.named {members : Members} (good : Good leaf members) : Named members where
  texts member held := by
    obtain ⟨name, same⟩ := good.keys member held
    rw [same]
    rfl
  distinct := good.distinct

/-! ## Joined fragments -/

theorem fields_merge {left right merged : Members} (leftNamed : Named left)
    (leftFields : ∀ field ∈ left, ∃ inner, field.2 = .dict inner) (rightNamed : Named right)
    (rightFields : ∀ field ∈ right, ∃ inner, field.2 = .dict inner)
    (joined : Fragment.merge? left right = some merged) :
    ∀ field ∈ merged, ∃ inner, field.2 = .dict inner := by
  have named := Fragment.Named.merge leftNamed rightNamed joined
  have isDict {fields : Members} (each : ∀ field ∈ fields, ∃ inner, field.2 = .dict inner)
      {name : String} {v : Value} (found : get? name fields = some v) :
      ∃ inner, v = .dict inner := by
    obtain ⟨key, -, held⟩ := mem_of_get? found
    exact each _ held
  intro field held
  obtain ⟨name, text⟩ := Option.isSome_iff_exists.mp (named.texts field held)
  have found := named.get?_of_mem text held
  rcases Fragment.get?_merge_cases rightNamed joined found with
    ⟨old, -⟩ | ⟨-, new⟩ | ⟨old, new, present, incoming, done⟩
  · exact isDict leftFields old
  · exact isDict rightFields new
  · obtain ⟨left, rfl⟩ := isDict leftFields present
    obtain ⟨right, rfl⟩ := isDict rightFields incoming
    obtain ⟨both, -, same⟩ := Option.map_eq_some_iff.mp done
    exact ⟨both, same.symm⟩

/-- What two fragments hold under one keyword can be joined. -/
theorem Content.join (leaves : Leaves leaf) {name : String} {old new both : Value}
    (present : Content leaf name old) (incoming : Content leaf name new)
    (done : Fragment.join? (some old) new = some both) : Content leaf name both where
  known := present.known
  type same := by
    obtain ⟨typeName, listed, rfl⟩ := incoming.type same
    exact ⟨typeName, listed, (Option.some.inj done).symm⟩
  alternatives same := by
    obtain ⟨left, rfl, many, apart, dicts⟩ := present.alternatives same
    obtain ⟨right, rfl, -, -, dicts'⟩ := incoming.alternatives same
    obtain ⟨kept, unique, rfl⟩ := Option.map_eq_some_iff.mp done
    refine ⟨kept, rfl, Nat.le_trans many (unique?_append_keeps apart unique).length_le,
      unique?_different unique, fun item held => ?_⟩
    rcases List.mem_append.mp (unique?_mem unique held) with there | there
    · exact dicts item there
    · exact dicts' item there
  element same := by
    obtain ⟨left, rfl⟩ := present.element same
    obtain ⟨right, rfl⟩ := incoming.element same
    obtain ⟨merged, -, rfl⟩ := Option.map_eq_some_iff.mp done
    exact ⟨merged, rfl⟩
  fields same := by
    obtain ⟨left, rfl, named, dicts⟩ := present.fields same
    obtain ⟨right, rfl, named', dicts'⟩ := incoming.fields same
    obtain ⟨merged, joined, rfl⟩ := Option.map_eq_some_iff.mp done
    exact ⟨merged, rfl, Fragment.Named.merge named named' joined,
      fields_merge named dicts named' dicts' joined⟩
  required same := by
    obtain ⟨left, rfl, filled, apart, texts⟩ := present.required same
    obtain ⟨right, rfl, -, -, texts'⟩ := incoming.required same
    obtain ⟨kept, unique, rfl⟩ := Option.map_eq_some_iff.mp done
    refine ⟨kept, rfl, fun empty => ?_, unique?_different unique, fun own held => ?_⟩
    · have first := unique?_append_keeps apart unique
      rw [empty] at first
      exact filled (List.prefix_nil.mp first)
    · rcases List.mem_append.mp (unique?_mem unique held) with there | there
      · exact texts own there
      · exact texts' own there
  exclusion same := by
    obtain ⟨left, rfl, fits⟩ := present.exclusion same
    obtain ⟨right, rfl, fits'⟩ := incoming.exclusion same
    obtain ⟨merged, joined, rfl⟩ := Option.map_eq_some_iff.mp done
    obtain ⟨both, itemsJoined, rest⟩ := Fragment.merge?_cons.mp joined
    have there : lookup (.str "enum") [(.str "enum", .list left)] = some (.list left) := by
      simp [lookup, Value.equal_str_self]
    rw [there] at itemsJoined
    have whole := leaves.join (by decide) fits fits' itemsJoined
    obtain ⟨kept, -, rfl⟩ := Option.map_eq_some_iff.mp itemsJoined
    refine ⟨kept, ?_, whole⟩
    rw [← Fragment.merge?_nil.mp rest]
    simp [Members.insert, Value.equal_str_self]
  plain listed := leaves.join listed (present.plain listed) (incoming.plain listed) done

/-- The fields of either fragment are fields of both joined. -/
theorem mem_fieldNames_merge {left right merged : Members} {name : String}
    (leftGood : Good leaf left) (rightGood : Good leaf right)
    (joined : Fragment.merge? left right = some merged)
    (listed : name ∈ fieldNames left ∨ name ∈ fieldNames right) : name ∈ fieldNames merged := by
  have named := rightGood.named
  cases incoming : get? "properties" right with
  | none =>
      have same := Fragment.get?_merge_of_none named joined incoming
      simpa [fieldNames, same, incoming] using listed
  | some new =>
      obtain ⟨second, rfl, namedFields, -⟩ := (rightGood.entries incoming).fields rfl
      obtain ⟨both, done, there⟩ := Fragment.get?_merge_of_some named joined incoming
      cases present : get? "properties" left with
      | none =>
          rw [present] at done
          obtain rfl := Option.some.inj done
          simpa [fieldNames, there, present, incoming] using listed
      | some old =>
          obtain ⟨first, rfl, -, -⟩ := (leftGood.entries present).fields rfl
          rw [present] at done
          obtain ⟨all, merges, rfl⟩ := Option.map_eq_some_iff.mp done
          simp only [fieldNames, present, incoming] at listed
          simpa [fieldNames, there] using (Fragment.mem_names_merge namedFields merges).mpr listed

theorem Good.merge (leaves : Leaves leaf) {left right merged : Members}
    (leftGood : Good leaf left) (rightGood : Good leaf right)
    (joined : Fragment.merge? left right = some merged) : Good leaf merged where
  keys member held := by
    obtain ⟨old, there, same⟩ := Fragment.mem_keys_merge joined held
    rcases List.mem_append.mp there with there | there
    · exact same ▸ leftGood.keys old there
    · exact same ▸ rightGood.keys old there
  distinct := (Fragment.Named.merge leftGood.named rightGood.named joined).distinct
  entries found := by
    rcases Fragment.get?_merge_cases rightGood.named joined found with
      ⟨old, -⟩ | ⟨-, new⟩ | ⟨old, new, present, incoming, done⟩
    · exact leftGood.entries old
    · exact rightGood.entries new
    · exact (leftGood.entries present).join leaves (rightGood.entries incoming) done
  within found own held text same := by
    refine mem_fieldNames_merge leftGood rightGood joined ?_
    rcases Fragment.get?_merge_cases rightGood.named joined found with
      ⟨old, -⟩ | ⟨-, new⟩ | ⟨old, new, present, incoming, done⟩
    · exact .inl (leftGood.within old own held text same)
    · exact .inr (rightGood.within new own held text same)
    · obtain ⟨first, rfl, -⟩ := (leftGood.entries present).required rfl
      obtain ⟨second, rfl, -⟩ := (rightGood.entries incoming).required rfl
      obtain ⟨kept, unique, whole⟩ := Option.map_eq_some_iff.mp done
      obtain rfl := Value.list.inj whole
      rcases List.mem_append.mp (unique?_mem unique held) with mem | mem
      · exact .inl (leftGood.within present own mem text same)
      · exact .inr (rightGood.within incoming own mem text same)

/-- A schema in a fragment is smaller than the fragment. -/
theorem Child.sizeOf_lt {members child : Members} (held : Child members child) :
    sizeOf child < sizeOf members := by
  cases held with
  | element found =>
      have smaller := sizeOf_lt_of_get? found
      simp only [Value.dict.sizeOf_spec] at smaller
      omega
  | field found held =>
      have outer := sizeOf_lt_of_get? found
      have inner := sizeOf_lt_of_get? held
      simp only [Value.dict.sizeOf_spec] at outer inner
      omega
  | alternative found held =>
      have outer := sizeOf_lt_of_get? found
      have inner := List.sizeOf_lt_of_mem held
      simp only [Value.list.sizeOf_spec] at outer
      simp only [Value.dict.sizeOf_spec] at inner
      omega

/-- A schema in a joined fragment is one of the left, one of the right or two of them
joined. -/
theorem Child.of_merge {left right merged child : Members} (leftGood : Good leaf left)
    (rightGood : Good leaf right) (joined : Fragment.merge? left right = some merged)
    (held : Child merged child) :
    Child left child ∨ Child right child ∨
      ∃ one other, Child left one ∧ Child right other ∧ Fragment.merge? one other = some child := by
  cases held with
  | element found =>
      rcases Fragment.get?_merge_cases rightGood.named joined found with
        ⟨old, -⟩ | ⟨-, new⟩ | ⟨old, new, present, incoming, done⟩
      · exact .inl (.element old)
      · exact .inr (.inl (.element new))
      · obtain ⟨first, rfl⟩ := (leftGood.entries present).element rfl
        obtain ⟨second, rfl⟩ := (rightGood.entries incoming).element rfl
        obtain ⟨both, merges, same⟩ := Option.map_eq_some_iff.mp done
        obtain rfl := Value.dict.inj same
        exact .inr (.inr ⟨first, second, .element present, .element incoming, merges⟩)
  | field found held =>
      rcases Fragment.get?_merge_cases rightGood.named joined found with
        ⟨old, -⟩ | ⟨-, new⟩ | ⟨old, new, present, incoming, done⟩
      · exact .inl (.field old held)
      · exact .inr (.inl (.field new held))
      · obtain ⟨first, rfl, named, dicts⟩ := (leftGood.entries present).fields rfl
        obtain ⟨second, rfl, named', dicts'⟩ := (rightGood.entries incoming).fields rfl
        obtain ⟨both, merges, same⟩ := Option.map_eq_some_iff.mp done
        obtain rfl := Value.dict.inj same
        rcases Fragment.get?_merge_cases named' merges held with
          ⟨old, -⟩ | ⟨-, new⟩ | ⟨old, new, present', incoming', done'⟩
        · exact .inl (.field present old)
        · exact .inr (.inl (.field incoming new))
        · obtain ⟨key, -, mem⟩ := mem_of_get? present'
          obtain ⟨key', -, mem'⟩ := mem_of_get? incoming'
          obtain ⟨one, rfl⟩ := dicts _ mem
          obtain ⟨other, rfl⟩ := dicts' _ mem'
          obtain ⟨whole, merges', same'⟩ := Option.map_eq_some_iff.mp done'
          obtain rfl := Value.dict.inj same'
          exact .inr (.inr ⟨one, other, .field present present', .field incoming incoming', merges'⟩)
  | alternative found held =>
      rcases Fragment.get?_merge_cases rightGood.named joined found with
        ⟨old, -⟩ | ⟨-, new⟩ | ⟨old, new, present, incoming, done⟩
      · exact .inl (.alternative old held)
      · exact .inr (.inl (.alternative new held))
      · obtain ⟨first, rfl, -⟩ := (leftGood.entries present).alternatives rfl
        obtain ⟨second, rfl, -⟩ := (rightGood.entries incoming).alternatives rfl
        obtain ⟨kept, unique, same⟩ := Option.map_eq_some_iff.mp done
        obtain rfl := Value.list.inj same
        rcases List.mem_append.mp (unique?_mem unique held) with mem | mem
        · exact .inl (.alternative present mem)
        · exact .inr (.inl (.alternative incoming mem))

/-- Sound fragments stay sound when they are joined. -/
theorem Sound.merge (leaves : Leaves leaf) {left right merged : Members}
    (leftSound : Sound leaf left) (rightSound : Sound leaf right)
    (joined : Fragment.merge? left right = some merged) : Sound leaf merged := by
  obtain ⟨leftGood, leftBelow⟩ := sound_iff.mp leftSound
  obtain ⟨rightGood, rightBelow⟩ := sound_iff.mp rightSound
  refine sound_iff.mpr ⟨leftGood.merge leaves rightGood joined, fun child held => ?_⟩
  rcases held.of_merge leftGood rightGood joined with
    old | new | ⟨one, other, below, below', merges⟩
  · exact leftBelow child old
  · exact rightBelow child new
  · have smaller := below'.sizeOf_lt
    exact Sound.merge leaves (leftBelow one below) (rightBelow other below') merges
termination_by sizeOf right

/-! ## Entries of each keyword -/

theorem ne_of_plain {name other : String} (listed : name ∈ plainKeywords)
    (shaped : other ∈ shapedKeywords) : name ≠ other := by
  have apart : ∀ name ∈ plainKeywords, name ∉ shapedKeywords := by decide
  exact fun same => apart name listed (same ▸ shaped)

theorem Content.of_plain {name : String} {v : Value} (listed : name ∈ plainKeywords)
    (fits : leaf name v) : Content leaf name v where
  known := List.mem_append_right _ listed
  type same := absurd same (ne_of_plain listed (by decide))
  alternatives same := absurd same (ne_of_plain listed (by decide))
  element same := absurd same (ne_of_plain listed (by decide))
  fields same := absurd same (ne_of_plain listed (by decide))
  required same := absurd same (ne_of_plain listed (by decide))
  exclusion same := absurd same (ne_of_plain listed (by decide))
  plain _ := fits

theorem Content.of_type {typeName : String} (listed : typeName ∈ Draft06.typeNames) :
    Content leaf "type" (.str typeName) where
  known := by decide
  type _ := ⟨typeName, listed, rfl⟩
  alternatives := by simp
  element := by simp
  fields := by simp
  required := by simp
  exclusion := by simp
  plain := by simp [plainKeywords]

theorem Content.of_alternatives {items : List Value} (many : 2 ≤ items.length)
    (apart : Different items) (dicts : ∀ item ∈ items, ∃ inner, item = .dict inner) :
    Content leaf "anyOf" (.list items) where
  known := by decide
  type := by simp
  alternatives _ := ⟨items, rfl, many, apart, dicts⟩
  element := by simp
  fields := by simp
  required := by simp
  exclusion := by simp
  plain := by simp [plainKeywords]

theorem Content.of_element (inner : Members) : Content leaf "items" (.dict inner) where
  known := by decide
  type := by simp
  alternatives := by simp
  element _ := ⟨inner, rfl⟩
  fields := by simp
  required := by simp
  exclusion := by simp
  plain := by simp [plainKeywords]

theorem Content.of_fields {fields : Members} (named : Named fields)
    (dicts : ∀ field ∈ fields, ∃ inner, field.2 = .dict inner) :
    Content leaf "properties" (.dict fields) where
  known := by decide
  type := by simp
  alternatives := by simp
  element := by simp
  fields _ := ⟨fields, rfl, named, dicts⟩
  required := by simp
  exclusion := by simp
  plain := by simp [plainKeywords]

theorem Content.of_required {names : List Value} (filled : names ≠ []) (apart : Different names)
    (texts : ∀ own ∈ names, own.text?.isSome = true) : Content leaf "required" (.list names) where
  known := by decide
  type := by simp
  alternatives := by simp
  element := by simp
  fields := by simp
  required _ := ⟨names, rfl, filled, apart, texts⟩
  exclusion := by simp
  plain := by simp [plainKeywords]

theorem Content.of_exclusion {items : List Value} (fits : leaf "enum" (.list items)) :
    Content leaf "not" (.dict [(.str "enum", .list items)]) where
  known := by decide
  type := by simp
  alternatives := by simp
  element := by simp
  fields := by simp
  required := by simp
  exclusion _ := ⟨items, rfl, fits⟩
  plain := by simp [plainKeywords]

/-! ## Writing and taking away plain keywords -/

/-- The schemas in a fragment do not depend on its plain keywords. -/
theorem Sound.of_get? {members others : Members} (sound : Sound leaf members)
    (named : Named others) (keys : ∀ member ∈ others, ∃ name, member.1 = .str name)
    (entries : ∀ {name v}, get? name others = some v → Content leaf name v)
    (same : ∀ name ∈ shapedKeywords, get? name others = get? name members) :
    Sound leaf others := by
  obtain ⟨good, below⟩ := sound_iff.mp sound
  refine sound_iff.mpr ⟨⟨keys, named.distinct, entries, fun found => ?_⟩, fun child held => ?_⟩
  · rw [same "required" (by decide)] at found
    simpa only [fieldNames, same "properties" (by decide)] using good.within found
  · exact below child (held.of_get? same)

/-- A plain keyword can be written. -/
theorem Sound.insert {members : Members} (sound : Sound leaf members) {name : String} {v : Value}
    (listed : name ∈ plainKeywords) (fits : leaf name v) :
    Sound leaf (Members.insert (.str name) v members) := by
  obtain ⟨good, -⟩ := sound_iff.mp sound
  refine sound.of_get? (good.named.insert rfl v) (fun member held => ?_) (fun {other w} found => ?_)
    fun other shaped => ?_
  · rcases mem_insert held with old | ⟨-, own | ⟨old, there, same⟩⟩
    · exact good.keys member old
    · exact ⟨name, own⟩
    · exact same ▸ good.keys old there
  · rw [get?_insert rfl] at found
    split at found
    · rename_i same
      obtain rfl := Option.some.inj found
      exact same ▸ Content.of_plain listed fits
    · exact good.entries found
  · rw [get?_insert rfl, if_neg (ne_of_plain listed shaped)]

/-- Plain keywords can be written one after the other. -/
theorem Sound.update {members own : Members} (sound : Sound leaf members)
    (plain : ∀ member ∈ own, ∃ name ∈ plainKeywords, member.1 = .str name ∧ leaf name member.2) :
    Sound leaf (Members.update members own) := by
  induction own generalizing members with
  | nil => exact sound
  | cons member rest ih =>
      obtain ⟨⟨name, listed, key, fits⟩, others⟩ := List.forall_mem_cons.mp plain
      rw [update_cons, key]
      exact ih (sound.insert listed fits) others

/-- A plain keyword can be taken away. -/
theorem Sound.erase {members : Members} (sound : Sound leaf members) {name : String}
    (listed : name ∈ plainKeywords) : Sound leaf (Members.erase (.str name) members) := by
  obtain ⟨good, -⟩ := sound_iff.mp sound
  refine sound.of_get? (good.named.erase name) (fun member held => good.keys member (mem_erase held))
    (fun {other v} found => ?_) fun other shaped => ?_
  · rw [get?_erase good.named] at found
    split at found
    · cases found
    · exact good.entries found
  · rw [get?_erase good.named, if_neg (ne_of_plain listed shaped)]

/-! ## Fragments written out -/

theorem mem_of_get?_ofKeywords {members : List (String × Value)} {name : String} {v : Value}
    (found : get? name (Fragment.ofKeywords members) = some v) : (name, v) ∈ members := by
  obtain ⟨key, text, mem⟩ := mem_of_get? found
  obtain ⟨member, there, same⟩ := List.mem_map.mp mem
  obtain ⟨rfl, rfl⟩ := Prod.mk.inj same
  obtain rfl : member.1 = name := Option.some.inj text
  exact there

theorem names_ofKeywords (members : List (String × Value)) :
    Members.names (Fragment.ofKeywords members) = members.map Prod.fst := by
  simp [Members.names, Fragment.ofKeywords, Members.named, List.filterMap_map, Value.text?]

/-- A fragment written out has texts for keys, each once if its keywords are different. -/
theorem named_ofKeywords {members : List (String × Value)}
    (distinct : (members.map Prod.fst).Nodup) : Named (Fragment.ofKeywords members) where
  texts member mem := by
    obtain ⟨own, -, rfl⟩ := List.mem_map.mp mem
    rfl
  distinct := names_ofKeywords members ▸ distinct

/-- A fragment of texts, written out. -/
theorem map_str_eq_ofKeywords (members : List (String × String)) :
    (members.map fun member => (Value.str member.1, Value.str member.2)) =
      Fragment.ofKeywords (members.map fun member => (member.1, .str member.2)) := by
  simp [Fragment.ofKeywords, Members.named]

/-- A fragment written out without keywords for schemas holds none. -/
theorem not_child_of_flat {members : List (String × Value)} {child : Members}
    (flat : ∀ name ∈ ["items", "properties", "anyOf"], name ∉ members.map Prod.fst) :
    ¬ Child (Fragment.ofKeywords members) child := by
  have absent {name : String} {v : Value} (listed : name ∈ ["items", "properties", "anyOf"])
      (found : get? name (Fragment.ofKeywords members) = some v) : False :=
    flat name listed (List.mem_map_of_mem (mem_of_get?_ofKeywords found))
  intro held
  cases held with
  | element found => exact absent (by simp) found
  | field found held => exact absent (by simp) found
  | alternative found held => exact absent (by simp) found

/-- A fragment written out is sound when its keywords are different, each holds what it
should, and so do the schemas in it. -/
theorem Sound.of_keywords {members : List (String × Value)}
    (distinct : (members.map Prod.fst).Nodup)
    (entries : ∀ member ∈ members, Content leaf member.1 member.2)
    (within : ∀ names, ("required", .list names) ∈ members →
      ∀ own ∈ names, ∀ text, own.text? = some text →
        text ∈ fieldNames (Fragment.ofKeywords members))
    (below : ∀ child, Child (Fragment.ofKeywords members) child → Sound leaf child) :
    Sound leaf (Fragment.ofKeywords members) := by
  refine sound_iff.mpr ⟨⟨fun member mem => ?_, (named_ofKeywords distinct).distinct,
    fun found => entries _ (mem_of_get?_ofKeywords found),
    fun found => within _ (mem_of_get?_ofKeywords found)⟩, below⟩
  obtain ⟨own, -, same⟩ := List.mem_map.mp mem
  exact ⟨own.1, same ▸ rfl⟩

/-- The same for a fragment without schemas. -/
theorem Sound.of_flat {members : List (String × Value)}
    (distinct : (members.map Prod.fst).Nodup)
    (entries : ∀ member ∈ members, Content leaf member.1 member.2)
    (flat : ∀ name ∈ ["items", "properties", "anyOf", "required"], name ∉ members.map Prod.fst) :
    Sound leaf (Fragment.ofKeywords members) := by
  refine Sound.of_keywords distinct entries (fun names held => ?_) fun child held => ?_
  · exact absurd (List.mem_map_of_mem held) (flat "required" (by simp))
  · refine absurd held (not_child_of_flat fun name listed => flat name ?_)
    exact List.mem_append_left ["required"] listed

end Draftsman.Document
