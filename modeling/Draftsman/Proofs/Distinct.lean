/-
# Draftsman.Proofs.Distinct -- lists without repetitions

A list of different items grows by one item at a time: an item that is there already
leaves it as it is, any other goes to its end (`addNew?_cases`).  So the items stay
different (`foldlM_pairwise`), what was there stays in front (`foldlM_keeps`), and
nothing comes in that was not offered (`foldlM_mem`).  The first of items that are the same is
the one that is kept (`foldlM_covers`), in its place among the others (`foldlM_sublist`).

Items that differ are all kept (`foldlM_append_of_pairwise`), so joining two lists never
takes anything from a first one that has no repetitions (`unique?_append_keeps`).
-/
import Draftsman.Fragment
import Mathlib.Data.List.Basic

namespace Draftsman

set_option autoImplicit false

section Growing

variable {α : Type} {same? : α → α → Option Bool}

/-- An item is among others if and only if a comparison with one of them says so. -/
theorem among?_cases {item : α} {others : List α} {there : Bool}
    (found : among? same? item others = some there) :
    (there = true ∧ ∃ other ∈ others, same? other item = some true) ∨
      (there = false ∧ ∀ other ∈ others, same? other item = some false) := by
  induction others with
  | nil => exact .inr ⟨by simpa [among?] using found.symm, by simp⟩
  | cons other rest ih =>
      simp only [among?, Option.bind_eq_bind, Option.bind_eq_some_iff] at found
      obtain ⟨here, compared, found⟩ := found
      cases here with
      | true => exact .inl ⟨by simpa using found.symm, other, List.mem_cons_self, compared⟩
      | false =>
          rcases ih (by simpa using found) with ⟨yes, held, mem, same⟩ | ⟨no, apart⟩
          · exact .inl ⟨yes, held, List.mem_cons_of_mem _ mem, same⟩
          · exact .inr ⟨no, List.forall_mem_cons.mpr ⟨compared, apart⟩⟩

/-- An item that differs from all others is not among them. -/
theorem among?_of_apart {item : α} {others : List α}
    (apart : ∀ other ∈ others, same? other item = some false) :
    among? same? item others = some false := by
  induction others with
  | nil => rfl
  | cons other rest ih =>
      obtain ⟨first, later⟩ := List.forall_mem_cons.mp apart
      simp [among?, first, ih later]

/-- An item of a list without repetitions is found there, as it differs from those before it. -/
theorem among?_of_mem {item : α} {items : List α}
    (apart : items.Pairwise fun a b => same? a b = some false)
    (self : same? item item = some true) (held : item ∈ items) :
    among? same? item items = some true := by
  induction items with
  | nil => cases held
  | cons first rest ih =>
      obtain ⟨differs, later⟩ := List.pairwise_cons.mp apart
      rcases List.mem_cons.mp held with rfl | held
      · simp [among?, self]
      · simp [among?, differs item held, ih later held]

/-- An item that is the same as one of a list leaves it; any other goes to its end. -/
theorem addNew?_cases {found next : List α} {item : α}
    (added : addNew? same? found item = some next) :
    (next = found ∧ ∃ other ∈ found, same? other item = some true) ∨
      (next = found ++ [item] ∧ ∀ other ∈ found, same? other item = some false) := by
  simp only [addNew?, Option.bind_eq_bind, Option.bind_eq_some_iff] at added
  obtain ⟨there, among, added⟩ := added
  rcases among?_cases among with ⟨rfl, same⟩ | ⟨rfl, apart⟩
  · exact .inl ⟨by simpa using added.symm, same⟩
  · exact .inr ⟨by simpa using added.symm, apart⟩

/-- The items of a list that has grown are old ones or the new one. -/
theorem mem_addNew? {found next : List α} {item kept : α}
    (added : addNew? same? found item = some next) (held : kept ∈ next) :
    kept ∈ found ∨ kept = item := by
  rcases addNew?_cases added with ⟨rfl, -⟩ | ⟨rfl, -⟩
  · exact .inl held
  · simpa using held

theorem addNew?_pairwise {found next : List α} {item : α}
    (apart : found.Pairwise fun a b => same? a b = some false)
    (added : addNew? same? found item = some next) :
    next.Pairwise fun a b => same? a b = some false := by
  rcases addNew?_cases added with ⟨rfl, -⟩ | ⟨rfl, new⟩
  · exact apart
  · exact List.pairwise_append.mpr ⟨apart, List.pairwise_singleton _ _, by simpa using new⟩

theorem addNew?_keeps {found next : List α} {item : α}
    (added : addNew? same? found item = some next) : found <+: next := by
  rcases addNew?_cases added with ⟨rfl, -⟩ | ⟨rfl, -⟩
  · exact List.prefix_rfl
  · exact List.prefix_append _ _

/-- A list is never empty after an item has been offered. -/
theorem addNew?_ne_nil {found next : List α} {item : α}
    (added : addNew? same? found item = some next) : next ≠ [] := by
  rcases addNew?_cases added with ⟨rfl, other, held, -⟩ | ⟨rfl, -⟩
  · exact List.ne_nil_of_mem held
  · simp

/-! ## Several items -/

theorem foldlM_cons {items found kept : List α} {item : α}
    (grown : (item :: items).foldlM (addNew? same?) found = some kept) :
    ∃ next, addNew? same? found item = some next ∧
      items.foldlM (addNew? same?) next = some kept := by
  simpa [List.foldlM_cons, Option.bind_eq_some_iff] using grown

theorem foldlM_pairwise {items found kept : List α}
    (apart : found.Pairwise fun a b => same? a b = some false)
    (grown : items.foldlM (addNew? same?) found = some kept) :
    kept.Pairwise fun a b => same? a b = some false := by
  induction items generalizing found with
  | nil =>
      obtain rfl : found = kept := by simpa using grown
      exact apart
  | cons item rest ih =>
      obtain ⟨next, added, grown⟩ := foldlM_cons grown
      exact ih (addNew?_pairwise apart added) grown

theorem foldlM_keeps {items found kept : List α}
    (grown : items.foldlM (addNew? same?) found = some kept) : found <+: kept := by
  induction items generalizing found with
  | nil =>
      obtain rfl : found = kept := by simpa using grown
      exact List.prefix_rfl
  | cons item rest ih =>
      obtain ⟨next, added, grown⟩ := foldlM_cons grown
      exact (addNew?_keeps added).trans (ih grown)

/-- A list is never empty after some items have been offered. -/
theorem foldlM_ne_nil {items found kept : List α} (filled : items ≠ [])
    (grown : items.foldlM (addNew? same?) found = some kept) : kept ≠ [] := by
  obtain ⟨item, rest, rfl⟩ := List.exists_cons_of_ne_nil filled
  obtain ⟨next, added, grown⟩ := foldlM_cons grown
  exact fun empty => addNew?_ne_nil added (List.prefix_nil.mp (empty ▸ foldlM_keeps grown))

theorem foldlM_mem {items found kept : List α} {item : α}
    (grown : items.foldlM (addNew? same?) found = some kept) (held : item ∈ kept) :
    item ∈ found ∨ item ∈ items := by
  induction items generalizing found with
  | nil =>
      obtain rfl : found = kept := by simpa using grown
      exact .inl held
  | cons first rest ih =>
      obtain ⟨next, added, grown⟩ := foldlM_cons grown
      rcases ih grown with there | there
      · rcases mem_addNew? added there with old | rfl
        · exact .inl old
        · exact .inr List.mem_cons_self
      · exact .inr (List.mem_cons_of_mem _ there)

/-- What is kept stands in the order in which it was offered. -/
theorem foldlM_sublist {items found kept : List α}
    (grown : items.foldlM (addNew? same?) found = some kept) : kept.Sublist (found ++ items) := by
  induction items generalizing found with
  | nil =>
      obtain rfl : found = kept := by simpa using grown
      simp
  | cons item rest ih =>
      obtain ⟨next, added, grown⟩ := foldlM_cons grown
      have fewer : (next ++ rest).Sublist (found ++ item :: rest) := by
        rcases addNew?_cases added with ⟨rfl, -⟩ | ⟨rfl, -⟩
        · exact (List.sublist_cons_self item rest).append_left next
        · simp
      exact (ih grown).trans fewer

/-- Of an item that is offered, the same is kept: itself, or one from before it. -/
theorem foldlM_covers {before after found kept : List α} {item : α}
    (grown : (before ++ item :: after).foldlM (addNew? same?) found = some kept) :
    ∃ own ∈ kept, own = item ∨
      (own ∈ found ∨ own ∈ before) ∧ same? own item = some true := by
  rw [List.foldlM_append] at grown
  obtain ⟨middle, early, grown⟩ := Option.bind_eq_some_iff.mp grown
  obtain ⟨next, added, late⟩ := foldlM_cons grown
  have keeps := foldlM_keeps late
  rcases addNew?_cases added with ⟨rfl, other, held, same⟩ | ⟨rfl, -⟩
  · exact ⟨other, keeps.subset held, .inr ⟨foldlM_mem early held, same⟩⟩
  · exact ⟨item, keeps.subset (by simp), .inl rfl⟩

/-- Items of which no comparison says that two are the same are all kept. -/
theorem foldlM_append_of_pairwise {items found kept : List α}
    (apart : (found ++ items).Pairwise fun a b => same? a b ≠ some true)
    (grown : items.foldlM (addNew? same?) found = some kept) : kept = found ++ items := by
  induction items generalizing found with
  | nil => simpa using grown.symm
  | cons item rest ih =>
      obtain ⟨next, added, grown⟩ := foldlM_cons grown
      rcases addNew?_cases added with ⟨rfl, other, held, same⟩ | ⟨rfl, -⟩
      · have differ := (List.pairwise_append.mp apart).2.2 other held item List.mem_cons_self
        exact absurd same differ
      · have kept_eq := ih (by simpa using apart) grown
        simpa using kept_eq

/-- Items that are found to differ are all kept. -/
theorem foldlM_of_apart {items found : List α}
    (apart : (found ++ items).Pairwise fun a b => same? a b = some false) :
    items.foldlM (addNew? same?) found = some (found ++ items) := by
  induction items generalizing found with
  | nil => simp
  | cons item rest ih =>
      have fresh := among?_of_apart fun other held =>
        (List.pairwise_append.mp apart).2.2 other held item List.mem_cons_self
      have added : addNew? same? found item = some (found ++ [item]) := by
        simp [addNew?, fresh]
      rw [List.foldlM_cons, added, Option.bind_eq_bind, Option.bind_some, ih (by simpa using apart)]
      simp

/-- Items that are there already leave a list as it is. -/
theorem foldlM_of_mem {items found : List α}
    (apart : found.Pairwise fun a b => same? a b = some false)
    (self : ∀ item ∈ found, same? item item = some true) (among : ∀ item ∈ items, item ∈ found) :
    items.foldlM (addNew? same?) found = some found := by
  induction items with
  | nil => rfl
  | cons item rest ih =>
      obtain ⟨own, others⟩ := List.forall_mem_cons.mp among
      have added : addNew? same? found item = some found := by
        simp [addNew?, among?_of_mem apart (self item own) own]
      rw [List.foldlM_cons, added, Option.bind_eq_bind, Option.bind_some, ih others]

end Growing

/-! ## Values -/

theorem Value.same?_eq_some {a b : Value} {result : Bool} (compared : a.same? b = some result) :
    a.equalApart b = result := by
  simp only [Value.same?] at compared
  split at compared
  · cases compared
  · exact Option.some.inj compared

theorem Value.equal_of_equalApart {a b : Value} (same : a.equalApart b = true) :
    a.equal b = true := by
  simp only [equalApart, Bool.and_eq_true] at same
  exact same.1.1

theorem Value.equalApart_of_not_equal {a b : Value} (differ : a.equal b = false) :
    a.equalApart b = false := by
  rw [equalApart, differ, Bool.false_and, Bool.false_and]

/-- Texts are never made by a conversion. -/
theorem Value.holdsMade_of_text? {v : Value} {text : String} (own : v.text? = some text) :
    v.holdsMade = false := by
  cases v <;> first | rfl | cases own

/-- Values of which no two are equal, not even as one and the same thing. -/
abbrev Unequal (items : List Value) : Prop := items.Pairwise fun a b => a.equal b = false

/-- Values of which no two count as the same at their places. -/
abbrev Different (items : List Value) : Prop := items.Pairwise fun a b => a.equalApart b = false

theorem unique?_different {items kept : List Value} (grown : unique? items = some kept) :
    Different kept :=
  (foldlM_pairwise List.Pairwise.nil grown).imp Value.same?_eq_some

theorem unique?_mem {items kept : List Value} {item : Value} (grown : unique? items = some kept)
    (held : item ∈ kept) : item ∈ items := by
  simpa using foldlM_mem grown held

/-- A first list without repetitions stays in front when a second one is joined to it. -/
theorem unique?_append_keeps {first second kept : List Value} (different : Different first)
    (grown : unique? (first ++ second) = some kept) : first <+: kept := by
  simp only [unique?, distinct?, List.foldlM_append, Option.bind_eq_bind,
    Option.bind_eq_some_iff] at grown
  obtain ⟨middle, early, late⟩ := grown
  have whole : middle = [] ++ first :=
    foldlM_append_of_pairwise (by
      simpa using different.imp fun {a b} differ same => by
        simp [Value.same?_eq_some same] at differ) early
  rw [List.nil_append] at whole
  exact whole ▸ foldlM_keeps late

end Draftsman
