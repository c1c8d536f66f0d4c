/-
# Draftsman.Proofs.Dictionary -- dictionaries with names for keys

The keys of a document are different texts (`Members.Named`), and so are those of its
field sets.  Every question about such a dictionary is a question about names, and each
way of writing to one has one answer:

* `get?_insert`, `get?_erase`, `get?_update` say what stands under a name afterwards;
* `names_insert`, `names_erase` say which names there are, and in which order;
* `Named.insert`, `Named.erase`, `Named.update` keep the names different;
* `Named.get?_of_mem` and `mem_of_get?` lead from members to names and back.
-/
import Draftsman.Annotation
import Mathlib.Data.List.Nodup

namespace Draftsman

set_option autoImplicit false

/-- A key that is a text equals the keys that are that text. -/
theorem Value.equal_of_text? {key : Value} {name : String} (text : key.text? = some name)
    (v : Value) : key.equal v = (v.text? == some name) := by
  cases key with
  | str s =>
      obtain rfl : s = name := by simpa [Value.text?] using text
      exact Value.equal_str_left s v
  | primitive p =>
      obtain rfl : p.name = name := by simpa [Value.text?] using text
      cases v <;> simp [Value.equal, Value.atomEqual, Value.text?, Value.quantity?, BEq.comm]
  | _ => simp [Value.text?] at text

/-- Only what is a text equals a text. -/
theorem Value.text?_of_equal_str {v : Value} {text : String} (same : v.equal (.str text) = true) :
    v.text? = some text := by
  cases v <;> simp_all [Value.equal, Value.atomEqual, Value.text?, Value.quantity?]

/-- A text can be a key. -/
theorem Value.isKey_of_text? {v : Value} {name : String} (text : v.text? = some name) :
    v.isKey = true := by
  cases v <;> first | rfl | cases text

namespace Members

def names (members : Members) : List String := members.filterMap fun member => member.1.text?

/-- A dictionary whose keys are different texts. -/
structure Named (members : Members) : Prop where
  texts : ∀ member ∈ members, member.1.text?.isSome = true
  distinct : members.names.Nodup

/-! ## Reading -/

@[simp] theorem get?_nil (name : String) : get? name [] = none := rfl

theorem get?_cons (name : String) (member : Value × Value) (rest : Members) :
    get? name (member :: rest) =
      if member.1.text? = some name then some member.2 else get? name rest := by
  simp [get?, lookup, Value.equal_str_left]

/-- A dictionary with names for keys is looked up as the list of its members is. -/
theorem get?_named (name : String) (members : List (String × Value)) :
    get? name (named members) = members.lookup name := by
  induction members with
  | nil => rfl
  | cons member rest ih =>
      obtain ⟨own, value⟩ := member
      have step : get? name (named ((own, value) :: rest)) =
          if some own = some name then some value else get? name (named rest) :=
        get?_cons name (.str own, value) (named rest)
      rw [step, ih, List.lookup_cons]
      by_cases same : own = name
      · subst same
        simp
      · rw [if_neg (by simpa using same), beq_false_of_ne (Ne.symm same)]

/-- A key that is a text is looked up by its name. -/
theorem lookup_of_text? {key : Value} {name : String} (text : key.text? = some name)
    (members : Members) : lookup key members = get? name members := by
  induction members with
  | nil => rfl
  | cons member rest ih =>
      simp only [get?] at ih ⊢
      simp [lookup, Value.equal_of_text? text, Value.equal_str_left, ih]

/-- What stands under a name is a member whose key is that text. -/
theorem mem_of_get? {name : String} {value : Value} {members : Members}
    (found : get? name members = some value) :
    ∃ key, key.text? = some name ∧ (key, value) ∈ members := by
  induction members with
  | nil => simp at found
  | cons member rest ih =>
      rw [get?_cons] at found
      split at found
      · rename_i text
        obtain rfl : member.2 = value := by simpa using found
        exact ⟨member.1, text, List.mem_cons_self⟩
      · obtain ⟨key, text, held⟩ := ih found
        exact ⟨key, text, List.mem_cons_of_mem _ held⟩

/-- What stands under a name is smaller than the dictionary. -/
theorem sizeOf_lt_of_get? {name : String} {members : Members} {v : Value}
    (found : get? name members = some v) : sizeOf v < sizeOf members := by
  obtain ⟨key, -, held⟩ := mem_of_get? found
  have smaller := List.sizeOf_lt_of_mem held
  simp only [Prod.mk.sizeOf_spec] at smaller
  omega

/-- What is looked up is the value of a member. -/
theorem mem_of_lookup {key value : Value} {members : Members}
    (found : lookup key members = some value) : ∃ own, (own, value) ∈ members := by
  induction members with
  | nil => simp [lookup] at found
  | cons member rest ih =>
      simp only [lookup] at found
      split at found
      · obtain rfl : member.2 = value := by simpa using found
        exact ⟨member.1, List.mem_cons_self⟩
      · obtain ⟨own, held⟩ := ih found
        exact ⟨own, List.mem_cons_of_mem _ held⟩

theorem names_cons_of_text {member : Value × Value} {name : String}
    (text : member.1.text? = some name) (rest : Members) :
    names (member :: rest) = name :: names rest := by
  simp [names, text]

theorem names_cons_of_none {member : Value × Value} (text : member.1.text? = none)
    (rest : Members) : names (member :: rest) = names rest := by
  simp [names, text]

theorem mem_names {name : String} {members : Members} :
    name ∈ members.names ↔ ∃ member ∈ members, member.1.text? = some name := by
  simp [names]

theorem get?_eq_none_iff {name : String} {members : Members} :
    get? name members = none ↔ name ∉ members.names := by
  induction members with
  | nil => simp [names]
  | cons member rest ih =>
      rw [get?_cons]
      by_cases text : member.1.text? = some name
      · simp [text, names]
      · simp only [text, if_false, ih, mem_names]
        simp [text]

theorem get?_isSome {name : String} {members : Members} :
    (get? name members).isSome = true ↔ name ∈ members.names := by
  have absent : get? name members = none ↔ name ∉ members.names := get?_eq_none_iff
  cases found : get? name members <;> simp_all

namespace Named

variable {members : Members}

theorem nil : Named [] := ⟨by simp, by simp [names]⟩

theorem tail {member : Value × Value} (named : Named (member :: members)) : Named members := by
  refine ⟨fun other held => named.texts other (List.mem_cons_of_mem _ held), ?_⟩
  have distinct := named.distinct
  obtain ⟨name, text⟩ := Option.isSome_iff_exists.mp (named.texts _ List.mem_cons_self)
  rw [names_cons_of_text text] at distinct
  exact (List.nodup_cons.mp distinct).2

/-- The first key of a named dictionary is the text of no other member. -/
theorem head {member : Value × Value} (named : Named (member :: members)) :
    ∃ name, member.1.text? = some name ∧ name ∉ members.names := by
  obtain ⟨name, text⟩ := Option.isSome_iff_exists.mp (named.texts _ List.mem_cons_self)
  have distinct := named.distinct
  rw [names_cons_of_text text] at distinct
  exact ⟨name, text, (List.nodup_cons.mp distinct).1⟩

theorem cons {member : Value × Value} {name : String} (text : member.1.text? = some name)
    (fresh : name ∉ members.names) (named : Named members) : Named (member :: members) := by
  refine ⟨fun other held => ?_, ?_⟩
  · rcases List.mem_cons.mp held with rfl | held
    · simp [text]
    · exact named.texts other held
  · rw [names_cons_of_text text]
    exact List.nodup_cons.mpr ⟨fresh, named.distinct⟩

/-- In a named dictionary every member stands under its name. -/
theorem get?_of_mem {key value : Value} {name : String} (named : Named members)
    (text : key.text? = some name) (held : (key, value) ∈ members) :
    get? name members = some value := by
  induction members with
  | nil => simp at held
  | cons member rest ih =>
      rw [get?_cons]
      rcases List.mem_cons.mp held with rfl | held
      · simp [text]
      · obtain ⟨first, firstText, fresh⟩ := named.head
        have other : first ≠ name := fun same =>
          fresh (mem_names.mpr ⟨(key, value), held, by rw [text, same]⟩)
        simp [firstText, other, ih named.tail held]

end Named

/-! ## Writing one member -/

/-- Writing a key that is a text changes what stands under its name and nothing else. -/
theorem get?_insert {key : Value} {other : String} (text : key.text? = some other)
    (name : String) (value : Value) (members : Members) :
    get? name (insert key value members) =
      if other = name then some value else get? name members := by
  induction members with
  | nil => simp [insert, get?_cons, text]
  | cons member rest ih =>
      simp only [insert, Value.equal_of_text? text]
      by_cases held : member.1.text? = some other
      · by_cases same : other = name <;> simp [held, get?_cons, same]
      · simp only [beq_iff_eq, held, if_false, get?_cons, ih]
        by_cases same : other = name
        · subst same; simp [held]
        · simp [same]

/-- Writing appends a name that is new. -/
theorem names_insert {key : Value} {name : String} (text : key.text? = some name)
    (value : Value) (members : Members) :
    (insert key value members).names =
      if name ∈ members.names then members.names else members.names ++ [name] := by
  induction members with
  | nil => simp [insert, names, text]
  | cons member rest ih =>
      simp only [insert, Value.equal_of_text? text]
      by_cases held : member.1.text? = some name
      · simp [held, names]
      · simp only [beq_iff_eq, held, if_false]
        cases first : member.1.text? with
        | none => simpa only [names_cons_of_none first] using ih
        | some own =>
            have differ : name ≠ own := fun same => held (by rw [first, same])
            simp only [names_cons_of_text first, ih, List.mem_cons, differ, false_or]
            split <;> rfl

/-- The members after writing one: the old ones, but for the value under the key. -/
theorem mem_insert {key value : Value} {member : Value × Value} {members : Members}
    (held : member ∈ insert key value members) :
    member ∈ members ∨
      member.2 = value ∧ (member.1 = key ∨ ∃ old ∈ members, old.1 = member.1) := by
  induction members with
  | nil =>
      obtain rfl : member = (key, value) := by simpa [insert] using held
      exact .inr ⟨rfl, .inl rfl⟩
  | cons first rest ih =>
      simp only [insert] at held
      split at held
      · rcases List.mem_cons.mp held with rfl | held
        · exact .inr ⟨rfl, .inr ⟨first, List.mem_cons_self, rfl⟩⟩
        · exact .inl (List.mem_cons_of_mem _ held)
      · rcases List.mem_cons.mp held with rfl | held
        · exact .inl List.mem_cons_self
        · rcases ih held with old | ⟨same, key | ⟨old, there, keys⟩⟩
          · exact .inl (List.mem_cons_of_mem _ old)
          · exact .inr ⟨same, .inl key⟩
          · exact .inr ⟨same, .inr ⟨old, List.mem_cons_of_mem _ there, keys⟩⟩

namespace Named

variable {members : Members}

theorem insert {key : Value} {name : String} (named : Named members)
    (text : key.text? = some name) (value : Value) :
    Named (Members.insert key value members) := by
  refine ⟨fun member held => ?_, ?_⟩
  · rcases mem_insert held with old | ⟨-, own | ⟨old, there, same⟩⟩
    · exact named.texts member old
    · simp [own, text]
    · rw [← same]; exact named.texts old there
  · rw [names_insert text]
    split
    · exact named.distinct
    · rename_i fresh
      exact List.nodup_append.mpr ⟨named.distinct, by simp, by
        rintro a held b last rfl
        exact fresh (by simpa [List.mem_singleton.mp last] using held)⟩

end Named

/-! ## Removing one member -/

theorem mem_erase {key : Value} {member : Value × Value} {members : Members}
    (held : member ∈ erase key members) : member ∈ members := by
  induction members with
  | nil => simp [erase] at held
  | cons first rest ih =>
      simp only [erase] at held
      split at held
      · exact List.mem_cons_of_mem _ held
      · rcases List.mem_cons.mp held with rfl | held
        · exact List.mem_cons_self
        · exact List.mem_cons_of_mem _ (ih held)

theorem names_erase (name : String) (members : Members) :
    (erase (.str name) members).names = members.names.erase name := by
  induction members with
  | nil => simp [erase, names]
  | cons first rest ih =>
      simp only [erase, Value.equal_str_left]
      cases text : first.1.text? with
      | none => simpa [names_cons_of_none text] using ih
      | some own =>
          by_cases same : own = name
          · simp [same, names_cons_of_text text]
          · simp [same, names_cons_of_text text, ih]

/-- Removing a name from a named dictionary leaves what stands under the others. -/
theorem get?_erase {members : Members} (named : Named members) (other name : String) :
    get? name (erase (.str other) members) =
      if other = name then none else get? name members := by
  induction members with
  | nil => simp [erase]
  | cons first rest ih =>
      obtain ⟨own, text, fresh⟩ := named.head
      simp only [erase, Value.equal_str_left, text]
      by_cases held : own = other
      · subst held
        by_cases same : own = name
        · subst same; simpa using get?_eq_none_iff.mpr fresh
        · simp [same, get?_cons, text]
      · simp only [beq_iff_eq, Option.some.injEq, held, if_false, get?_cons, text, ih named.tail]
        by_cases same : other = name
        · subst same; simp [held]
        · simp [same]

theorem Named.erase {members : Members} (named : Named members) (name : String) :
    Named (Members.erase (.str name) members) := by
  refine ⟨fun member held => named.texts member (mem_erase held), ?_⟩
  rw [names_erase]
  exact named.distinct.erase name

/-! ## Writing several members -/

theorem update_cons (members : Members) (key value : Value) (others : Members) :
    update members ((key, value) :: others) = update (insert key value members) others := rfl

/-- The second dictionary decides wherever it has the name. -/
theorem get?_update {others : Members} (named : Named others) (name : String)
    (members : Members) :
    get? name (update members others) = (get? name others).or (get? name members) := by
  induction others generalizing members with
  | nil => simp [update]
  | cons first rest ih =>
      obtain ⟨own, text, fresh⟩ := named.head
      rw [update_cons, ih named.tail, get?_insert text, get?_cons, text]
      by_cases same : own = name
      · subst same; simp [get?_eq_none_iff.mpr fresh]
      · simp [same]

/-- Writing a new name appends its member. -/
theorem insert_of_fresh {key : Value} {name : String} (text : key.text? = some name)
    (value : Value) {members : Members} (fresh : name ∉ members.names) :
    insert key value members = members ++ [(key, value)] := by
  induction members with
  | nil => rfl
  | cons first rest ih =>
      have differ : first.1.text? ≠ some name := fun same =>
        fresh (mem_names.mpr ⟨first, List.mem_cons_self, same⟩)
      have later : name ∉ names rest := fun held => by
        obtain ⟨member, there, same⟩ := mem_names.mp held
        exact fresh (mem_names.mpr ⟨member, List.mem_cons_of_mem _ there, same⟩)
      simp [insert, Value.equal_of_text? text, differ, ih later]

theorem names_append (members others : Members) :
    (members ++ others).names = members.names ++ others.names := by
  simp [names]

/-- Writing new names appends their members. -/
theorem update_of_fresh {members others : Members} (named : Named others)
    (fresh : ∀ name ∈ others.names, name ∉ members.names) :
    update members others = members ++ others := by
  induction others generalizing members with
  | nil => simp [update]
  | cons first rest ih =>
      obtain ⟨own, text, later⟩ := named.head
      rw [names_cons_of_text text, List.forall_mem_cons] at fresh
      rw [update_cons, insert_of_fresh text _ fresh.1, ih named.tail]
      · simp
      · intro name held
        have differ : name ≠ own := fun same => later (same ▸ held)
        have single : names [(first.1, first.2)] = [own] := names_cons_of_text text []
        simp [names_append, single, differ, fresh.2 name held]

/-- A dictionary is made of its own members. -/
theorem ofList_of_named {members : Members} (named : Named members) : ofList members = members := by
  have appended : update [] members = [] ++ members := update_of_fresh named (by simp [names])
  exact appended

theorem Named.update {members others : Members} (named : Named members)
    (texts : ∀ member ∈ others, member.1.text?.isSome = true) :
    Named (Members.update members others) := by
  induction others generalizing members with
  | nil => exact named
  | cons first rest ih =>
      obtain ⟨name, text⟩ := Option.isSome_iff_exists.mp (texts first List.mem_cons_self)
      exact ih (named.insert text first.2)
        fun member held => texts member (List.mem_cons_of_mem _ held)

end Members

end Draftsman
