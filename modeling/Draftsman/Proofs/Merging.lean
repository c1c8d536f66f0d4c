/-
# Draftsman.Proofs.Merging -- joining as an operation

Two fragments joined are known key by key (`Merged`, `merge?_iff`): the keys are those of the left
one and then the new ones of the right one, and under each of them stands what stands there in one
of the two, or both joined.

Two lists joined hold the first of each group of equal items (`distinct`).  It does not matter how
several lists are grouped for that, as only the first of each group counts (`foldl_foldl`).
-/
import Draftsman.Proofs.Comparison
import Draftsman.Proofs.Keys

namespace Draftsman

set_option autoImplicit false

open Value Members

/-! ## Lists -/

def distinct (items : List Value) : List Value := items.foldl (addNew Value.equalApart) []

theorem addNew_of_addNew? {found next : List Value} {item : Value}
    (added : addNew? Value.same? found item = some next) :
    next = addNew Value.equalApart found item := by
  rcases addNew?_cases added with ⟨rfl, other, held, same⟩ | ⟨rfl, apart⟩
  · have there : next.any (Value.equalApart · item) = true :=
      List.any_eq_true.mpr ⟨other, held, same?_eq_some same⟩
    rw [addNew, if_pos there]
  · have fresh : ¬found.any (Value.equalApart · item) = true := fun there => by
      obtain ⟨other, held, same⟩ := List.any_eq_true.mp there
      rw [same?_eq_some (apart other held)] at same
      cases same
    rw [addNew, if_neg fresh]

theorem foldl_of_foldlM {items found kept : List Value}
    (grown : items.foldlM (addNew? Value.same?) found = some kept) :
    kept = items.foldl (addNew Value.equalApart) found := by
  induction items generalizing found with
  | nil => exact (Option.some.inj grown).symm
  | cons item rest ih =>
      obtain ⟨next, added, later⟩ := foldlM_cons grown
      rw [List.foldl_cons, ← addNew_of_addNew? added]
      exact ih later

theorem eq_distinct {items kept : List Value} (grown : unique? items = some kept) :
    kept = distinct items := foldl_of_foldlM grown

theorem unique?_eq_distinct {items : List Value} (quiet : ∀ item ∈ items, item.isQuiet = true) :
    unique? items = some (distinct items) := by
  obtain ⟨kept, grown⟩ := Option.isSome_iff_exists.mp (unique?_of_quiet quiet)
  rw [grown, eq_distinct grown]

/-- Where all comparisons have a result, the pass has one. -/
theorem foldlM_total (items found : List Value) :
    items.foldlM (addNew? fun a b => some (Value.equalApart a b)) found =
      some (items.foldl (addNew Value.equalApart) found) := by
  induction items generalizing found with
  | nil => rfl
  | cons item rest ih =>
      rw [List.foldlM_cons, addNew?_some]
      exact ih (addNew Value.equalApart found item)

theorem mem_distinct {items : List Value} {item : Value} (held : item ∈ distinct items) :
    item ∈ items := by
  simpa using foldlM_mem (foldlM_total items []) held

/-- What is offered is in the list that has grown, or one that counts as the same. -/
theorem exists_equal_of_foldl {items found : List Value} {item : Value}
    (offered : item ∈ found ∨ item ∈ items) :
    ∃ own ∈ items.foldl (addNew Value.equalApart) found,
      own = item ∨ own.equalApart item = true := by
  have grown := foldlM_total items found
  rcases offered with old | offered
  · exact ⟨item, (foldlM_keeps grown).subset old, .inl rfl⟩
  · obtain ⟨before, after, same⟩ := List.append_of_mem offered
    rw [same] at grown ⊢
    obtain ⟨own, held, rfl | ⟨-, before⟩⟩ := foldlM_covers grown
    · exact ⟨own, held, .inl rfl⟩
    · exact ⟨own, held, .inr (Option.some.inj before)⟩

/-- Only the first of each group of equal items counts for what is kept. -/
theorem foldl_foldl (items found others : List Value) :
    (items.foldl (addNew Value.equalApart) found).foldl (addNew Value.equalApart) others =
      items.foldl (addNew Value.equalApart) (found.foldl (addNew Value.equalApart) others) := by
  induction items generalizing found with
  | nil => rfl
  | cons item rest ih =>
      rw [List.foldl_cons, List.foldl_cons, ih]
      congr 1
      by_cases there : found.any (Value.equalApart · item) = true
      · obtain ⟨other, held, same⟩ := List.any_eq_true.mp there
        have offered : other ∈ others ∨ other ∈ found := .inr held
        obtain ⟨own, kept, before⟩ := exists_equal_of_foldl offered
        have alike : own.equalApart item = true := by
          rcases before with rfl | before
          · exact same
          · exact equalApart_trans before same
        have again :
            (found.foldl (addNew Value.equalApart) others).any (Value.equalApart · item) = true :=
          List.any_eq_true.mpr ⟨own, kept, alike⟩
        rw [addNew, if_pos there, addNew, if_pos again]
      · rw [addNew, if_neg there, List.foldl_append, List.foldl_cons, List.foldl_nil]

theorem distinct_append_left (first second : List Value) :
    distinct (distinct first ++ second) = distinct (first ++ second) := by
  simp only [distinct, List.foldl_append, foldl_foldl, List.foldl_nil]

theorem distinct_append_right (first second : List Value) :
    distinct (first ++ distinct second) = distinct (first ++ second) := by
  simp only [distinct, List.foldl_append, foldl_foldl, List.foldl_nil]

namespace Fragment

/-! ## Key by key -/

/-- What is joined under a key, by what stands there on the left and on the right. -/
def joinAt? (current incoming : Option Value) : Option Value :=
  match incoming with
  | none => current
  | some value => join? current value

@[simp] theorem joinAt?_none (current : Option Value) : joinAt? current none = current := rfl

@[simp] theorem join?_none (value : Value) : join? none value = some value := by
  cases value <;> rfl

@[simp] theorem none_joinAt? (incoming : Option Value) : joinAt? none incoming = incoming := by
  cases incoming with
  | none => rfl
  | some value => exact join?_none value

/-- Two fragments joined, key by key. -/
structure Merged (left right both : Members) : Prop where
  keyed : both.Keyed
  keys : both.map Prod.fst =
    left.map Prod.fst ++ (right.map Prod.fst).filter fun key => !has key left
  values : ∀ {key}, key.isProper = true →
    lookup key both = joinAt? (lookup key left) (lookup key right)

variable {left right both : Members}

theorem merged_of_merge? (leftKeyed : left.Keyed) (rightKeyed : right.Keyed)
    (joined : merge? left right = some both) : Merged left right both := by
  induction right generalizing left with
  | nil =>
      obtain rfl := merge?_nil.mp joined
      exact ⟨leftKeyed, by simp, fun _ => rfl⟩
  | cons member rest ih =>
      obtain ⟨here, done, later⟩ := merge?_cons.mp joined
      have proper := rightKeyed.head
      obtain ⟨keyed, keys, values⟩ := ih (leftKeyed.insert proper here) rightKeyed.tail later
      refine ⟨keyed, ?_, fun {key} keyProper => ?_⟩
      · have fresh : (rest.map Prod.fst).filter (fun key => !has key (insert member.1 here left)) =
            (rest.map Prod.fst).filter fun key => !has key left :=
          List.filter_congr fun key held => by
            obtain ⟨other, there, rfl⟩ := List.mem_map.mp held
            rw [has, lookup_insert leftKeyed proper (rightKeyed.tail.proper other there),
              rightKeyed.ne_head there, if_neg Bool.false_ne_true, has]
        rw [keys, fresh, map_fst_insert, List.map_cons, List.filter_cons]
        cases has member.1 left <;> simp
      · rw [values keyProper, lookup_insert leftKeyed proper keyProper, lookup_cons]
        by_cases own : key.equal member.1 = true
        · have absent : lookup key rest = none := lookup_eq_none_iff.mpr fun other there => by
            rw [equal_congr keyProper proper own]
            exact (List.pairwise_cons.mp rightKeyed.different).1 _ (List.mem_map_of_mem there)
          rw [if_pos own, if_pos own, absent, joinAt?_none, joinAt?,
            lookup_congr keyProper proper own, done]
        · rw [if_neg own, if_neg own]

/-- Fragments can be joined if this is so under each key. -/
theorem merge?_isSome (leftKeyed : left.Keyed) (rightKeyed : right.Keyed)
    (each : ∀ member ∈ right, (join? (lookup member.1 left) member.2).isSome = true) :
    (merge? left right).isSome = true := by
  induction right generalizing left with
  | nil => rfl
  | cons member rest ih =>
      obtain ⟨own, others⟩ := List.forall_mem_cons.mp each
      obtain ⟨here, done⟩ := Option.isSome_iff_exists.mp own
      have proper := rightKeyed.head
      obtain ⟨both, later⟩ := Option.isSome_iff_exists.mp
        (ih (leftKeyed.insert proper here) rightKeyed.tail fun other there => by
          rw [lookup_insert leftKeyed proper (rightKeyed.tail.proper other there),
            rightKeyed.ne_head there, if_neg Bool.false_ne_true]
          exact others other there)
      exact Option.isSome_iff_exists.mpr ⟨both, merge?_cons.mpr ⟨here, done, later⟩⟩

/-- There is one way only to join two fragments. -/
theorem Merged.unique {other : Members} (merged : Merged left right both)
    (merged' : Merged left right other) : both = other :=
  merged.keyed.ext merged'.keyed (merged.keys.trans merged'.keys.symm) fun proper =>
    (merged.values proper).trans (merged'.values proper).symm

/-- A key of either fragment is one of both joined, and there are no others. -/
theorem Merged.has_iff (merged : Merged left right both) {key : Value} :
    has key both = true ↔ has key left = true ∨ has key right = true := by
  simp only [Members.has_iff, merged.keys, List.mem_append, List.mem_filter, Bool.not_eq_true']
  constructor
  · rintro ⟨own, old | ⟨new, -⟩, same⟩
    · exact .inl ⟨own, old, same⟩
    · exact .inr ⟨own, new, same⟩
  · rintro (⟨own, old, same⟩ | ⟨own, new, same⟩)
    · exact ⟨own, .inl old, same⟩
    · by_cases there : has own left = true
      · obtain ⟨other, old, before⟩ := Members.has_iff.mp there
        exact ⟨other, .inl old, equal_trans key same before⟩
      · exact ⟨own, .inr ⟨new, by simpa using there⟩, same⟩

/-- Joining two fragments gives what it should, key by key, and nothing else does. -/
theorem merge?_iff (leftKeyed : left.Keyed) (rightKeyed : right.Keyed) :
    merge? left right = some both ↔ Merged left right both := by
  refine ⟨merged_of_merge? leftKeyed rightKeyed, fun merged => ?_⟩
  have each : ∀ member ∈ right, (join? (lookup member.1 left) member.2).isSome = true := by
    intro member held
    have there : has member.1 both = true := merged.has_iff.mpr (.inr
      (Members.has_iff.mpr ⟨member.1, List.mem_map_of_mem held, equal_self _⟩))
    rwa [has, merged.values (rightKeyed.proper member held), lookup_of_mem rightKeyed held] at there
  obtain ⟨other, joined⟩ := Option.isSome_iff_exists.mp (merge?_isSome leftKeyed rightKeyed each)
  rw [joined, merged.unique (merged_of_merge? leftKeyed rightKeyed joined)]

/-- A fragment joined to the empty one stays as it is. -/
theorem empty_merge? (keyed : right.Keyed) : merge? [] right = some right :=
  (merge?_iff .nil keyed).mpr ⟨keyed, by simp [has, lookup], fun _ => (none_joinAt? _).symm⟩

end Fragment

end Draftsman
