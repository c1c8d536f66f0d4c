/-
# Draftsman.Proofs.Keys -- dictionaries key by key

Keys of any kind are compared by equality of values, which is symmetric for proper ones only.  A
dictionary whose keys are proper and different (`Members.Keyed`) has one member for each of them
(`lookup_of_mem`), and writing under a key changes what stands there and nothing else
(`lookup_insert`).

Such a dictionary is known by its keys, in order, and by what stands under each of them
(`Keyed.ext`).
-/
import Draftsman.Proofs.Proper

namespace Draftsman

set_option autoImplicit false

open Value

namespace Value

/-- Two equal keys are equal to the same others. -/
theorem equal_congr {key other : Value} (proper : key.isProper = true)
    (proper' : other.isProper = true) (same : key.equal other = true) (third : Value) :
    key.equal third = other.equal third := by
  rw [Bool.eq_iff_iff]
  constructor
  · exact equal_trans other (equal_symm key proper proper' same)
  · exact equal_trans key same

/-- Proper keys are compared alike either way round. -/
theorem equal_comm {key other : Value} (proper : key.isProper = true)
    (proper' : other.isProper = true) : key.equal other = other.equal key := by
  rw [Bool.eq_iff_iff]
  exact ⟨equal_symm key proper proper', equal_symm other proper' proper⟩

end Value

namespace Members

/-- A dictionary with different keys, all of them proper. -/
structure Keyed (members : Members) : Prop where
  different : Unequal (members.map Prod.fst)
  proper : ∀ member ∈ members, member.1.isProper = true

theorem keyed_of_isProper {members : Members} (proper : (dict members).isProper = true) :
    Keyed members where
  different := (isProper_dict.mp proper).1
  proper member held := ((isProper_dict.mp proper).2 member held).1

namespace Keyed

variable {members rest : Members} {member : Value × Value} {key value : Value}

theorem nil : Keyed [] := ⟨List.Pairwise.nil, by simp⟩

theorem singleton (proper : key.isProper = true) (value : Value) : Keyed [(key, value)] :=
  ⟨List.pairwise_singleton _ _, List.forall_mem_singleton.mpr proper⟩

theorem tail (keyed : Keyed (member :: rest)) : Keyed rest :=
  ⟨(List.pairwise_cons.mp keyed.different).2, (List.forall_mem_cons.mp keyed.proper).2⟩

theorem head (keyed : Keyed (member :: rest)) : member.1.isProper = true :=
  (List.forall_mem_cons.mp keyed.proper).1

/-- No key after the first one is equal to it. -/
theorem ne_head {other : Value × Value} (keyed : Keyed (member :: rest)) (held : other ∈ rest) :
    other.1.equal member.1 = false := by
  rw [equal_comm (keyed.tail.proper other held) keyed.head]
  exact (List.pairwise_cons.mp keyed.different).1 _ (List.mem_map_of_mem held)

theorem insert (keyed : Keyed members) (proper : key.isProper = true) (value : Value) :
    Keyed (Members.insert key value members) where
  different := different_insert keyed.different keyed.proper proper value
  proper member held := by
    rcases mem_insert held with old | ⟨-, own | ⟨old, there, same⟩⟩
    · exact keyed.proper member old
    · exact own ▸ proper
    · exact same ▸ keyed.proper old there

end Keyed

variable {members : Members} {key other value : Value}

/-! ## Reading -/

theorem lookup_cons (key : Value) (member : Value × Value) (rest : Members) :
    lookup key (member :: rest) = if key.equal member.1 then some member.2 else lookup key rest :=
  rfl

/-- Equal keys find the same. -/
theorem lookup_congr (proper : key.isProper = true) (proper' : other.isProper = true)
    (same : key.equal other = true) (members : Members) :
    lookup key members = lookup other members := by
  induction members with
  | nil => rfl
  | cons member rest ih =>
      rw [lookup_cons, lookup_cons, equal_congr proper proper' same, ih]

theorem lookup_eq_none_iff : lookup key members = none ↔
    ∀ member ∈ members, key.equal member.1 = false := by
  induction members with
  | nil => simp [lookup]
  | cons member rest ih =>
      rw [lookup_cons, List.forall_mem_cons, ← ih]
      cases key.equal member.1 <;> simp

/-- Every member stands under its key. -/
theorem lookup_of_mem (keyed : Keyed members) (held : (key, value) ∈ members) :
    lookup key members = some value := by
  induction members with
  | nil => cases held
  | cons member rest ih =>
      rw [lookup_cons]
      rcases List.mem_cons.mp held with rfl | later
      · rw [if_pos (equal_self key)]
      · have differ : key.equal member.1 = false := keyed.ne_head later
        rw [differ, if_neg Bool.false_ne_true]
        exact ih keyed.tail later

/-- What stands under a key is a member whose key is equal. -/
theorem exists_mem_of_lookup (found : lookup key members = some value) :
    ∃ own, (own, value) ∈ members ∧ key.equal own = true := by
  induction members with
  | nil => cases found
  | cons member rest ih =>
      rw [lookup_cons] at found
      split at found
      · rename_i same
        obtain rfl := Option.some.inj found
        exact ⟨member.1, List.mem_cons_self, same⟩
      · obtain ⟨own, held, same⟩ := ih found
        exact ⟨own, List.mem_cons_of_mem _ held, same⟩

/-- There is a member of a key if and only if the dictionary has an equal one. -/
theorem has_iff : has key members = true ↔ ∃ own ∈ members.map Prod.fst, key.equal own = true := by
  constructor
  · intro there
    obtain ⟨value, found⟩ := Option.isSome_iff_exists.mp there
    obtain ⟨own, held, same⟩ := exists_mem_of_lookup found
    exact ⟨own, List.mem_map_of_mem held, same⟩
  · rintro ⟨own, held, same⟩
    exact has_of_equal held same

/-! ## Writing -/

/-- Writing under a key changes what stands there and nothing else. -/
theorem lookup_insert (keyed : Keyed members) (proper : key.isProper = true)
    (proper' : other.isProper = true) (value : Value) :
    lookup other (insert key value members) =
      if other.equal key then some value else lookup other members := by
  induction members with
  | nil => rfl
  | cons member rest ih =>
      rw [insert]
      by_cases here : key.equal member.1 = true
      · have alike : other.equal member.1 = other.equal key := by
          rw [equal_comm proper' keyed.head, equal_comm proper' proper,
            equal_congr proper keyed.head here]
        rw [if_pos here, lookup_cons, lookup_cons, alike]
        split <;> rfl
      · rw [if_neg here, lookup_cons, lookup_cons, ih keyed.tail]
        by_cases own : other.equal member.1 = true
        · have apart : ¬other.equal key = true := fun same =>
            here (equal_trans key (equal_symm other proper' proper same) own)
          rw [if_pos own, if_pos own, if_neg apart]
        · rw [if_neg own, if_neg own]

/-- Writing what is there leaves a dictionary as it is. -/
theorem insert_of_lookup (found : lookup key members = some value) :
    insert key value members = members := by
  induction members with
  | nil => cases found
  | cons member rest ih =>
      rw [lookup_cons] at found
      rw [insert]
      split at found
      · rename_i same
        rw [if_pos same, ← Option.some.inj found]
      · rename_i differ
        rw [if_neg differ, ih found]

/-! ## Dictionaries from their keys and values -/

/-- A dictionary is known by its keys, in order, and by what stands under them. -/
theorem Keyed.ext {others : Members} (keyed : Keyed members) (keyed' : Keyed others)
    (keys : members.map Prod.fst = others.map Prod.fst)
    (values : ∀ {key}, key.isProper = true → lookup key members = lookup key others) :
    members = others := by
  -- each list of members is that of its keys with what is looked up under them
  have rebuilt {members : Members} (keyed : Keyed members) :
      members.map (fun member => (member.1, some member.2)) =
        (members.map Prod.fst).map fun key => (key, lookup key members) := by
    rw [List.map_map]
    exact List.map_congr_left fun member held => by
      rw [Function.comp_apply, lookup_of_mem keyed held]
  have looked : (members.map Prod.fst).map (fun key => (key, lookup key members)) =
      (members.map Prod.fst).map fun key => (key, lookup key others) :=
    List.map_congr_left fun key held => by
      obtain ⟨member, there, rfl⟩ := List.mem_map.mp held
      rw [values (keyed.proper member there)]
  have same := (rebuilt keyed).trans (looked.trans (keys ▸ (rebuilt keyed').symm))
  refine List.map_injective_iff.mpr (fun a b same => ?_) same
  simp only [Prod.mk.injEq, Option.some.injEq] at same
  exact Prod.ext same.1 same.2

end Members

end Draftsman
