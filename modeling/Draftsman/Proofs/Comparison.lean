/-
# Draftsman.Proofs.Comparison -- values that can always be compared

Only a signaling decimal keeps a comparison from having a result.  A value with none of
them inside is quiet (`Value.isQuiet`); quiet values can be compared (`same?_of_quiet`),
so lists of them have distinct items (`unique?_of_quiet`) and fragments of them can be
joined (`merge?_of_quiet`).  Joining keeps fragments quiet (`quiet_hereditary`).
-/
import Draftsman.Proofs.Joining
import Draftsman.Proofs.Steps

namespace Draftsman

set_option autoImplicit false

namespace Value

mutual

/-- Whether no signaling decimal is in a value. -/
def isQuiet : Value → Bool
  | decimal d => !d.isSignaling
  | list items | tuple items | set items => areQuiet items
  | dict members => membersAreQuiet members
  | _ => true

def areQuiet : List Value → Bool
  | [] => true
  | v :: rest => isQuiet v && areQuiet rest

def membersAreQuiet : List (Value × Value) → Bool
  | [] => true
  | (k, v) :: rest => isQuiet k && isQuiet v && membersAreQuiet rest

end

theorem areQuiet_iff {items : List Value} :
    areQuiet items = true ↔ ∀ item ∈ items, item.isQuiet = true := by
  induction items with
  | nil => simp [areQuiet]
  | cons item rest ih => simp [areQuiet, ih]

theorem membersAreQuiet_iff {members : List (Value × Value)} :
    membersAreQuiet members = true ↔
      ∀ member ∈ members, member.1.isQuiet = true ∧ member.2.isQuiet = true := by
  induction members with
  | nil => simp [membersAreQuiet]
  | cons member rest ih => simp [membersAreQuiet, ih]

theorem quiet_hereditary :
    Fragment.Hereditary (fun key => key.isQuiet = true) fun v => v.isQuiet = true where
  list _ := areQuiet_iff
  dict _ := membersAreQuiet_iff

theorem isQuiet_of_text? {v : Value} (text : v.text?.isSome = true) : v.isQuiet = true := by
  cases v <;> simp_all [text?, isQuiet]

/-! ## Comparisons -/

theorem atomClashes_of_quiet {a b : Value} (first : a.isQuiet = true) (second : b.isQuiet = true) :
    atomClashes a b = false := by
  cases a <;> cases b <;> simp_all [atomClashes, isQuiet]

mutual

theorem clashes_of_quiet : ∀ (a b : Value), a.isQuiet = true → b.isQuiet = true →
    clashes a b = false
  | .list xs, b, first, second => by
      cases b with
      | list ys => simp [clashes, anyClash_of_quiet xs ys first second]
      | _ => rfl
  | .tuple xs, b, first, second => by
      cases b with
      | tuple ys => exact anyClash_of_quiet xs ys first second
      | _ => rfl
  | .dict xs, b, first, second => by
      cases b with
      | dict ys => simp [clashes, anyMemberClash_of_quiet xs ys first second]
      | _ => rfl
  | .set xs, b, first, second => rfl
  | .null, b, first, second | .bool _, b, first, second | .int _, b, first, second
  | .float _, b, first, second | .str _, b, first, second | .decimal _, b, first, second
  | .primitive _, b, first, second | .host _, b, first, second
  | .pattern _, b, first, second => atomClashes_of_quiet first second

theorem anyClash_of_quiet : ∀ (xs ys : List Value), areQuiet xs = true → areQuiet ys = true →
    anyClash xs ys = false
  | [], ys, _, _ => rfl
  | x :: xs, [], _, _ => rfl
  | x :: xs, y :: ys, first, second => by
      obtain ⟨one, others⟩ := Bool.and_eq_true_iff.mp first
      obtain ⟨other, rest⟩ := Bool.and_eq_true_iff.mp second
      simp [anyClash, clashes_of_quiet x y one other, anyClash_of_quiet xs ys others rest]

theorem anyMemberClash_of_quiet : ∀ (xs ys : List (Value × Value)),
    membersAreQuiet xs = true → membersAreQuiet ys = true → anyMemberClash xs ys = false
  | [], ys, _, _ => rfl
  | (k, v) :: xs, ys, first, second => by
      simp only [membersAreQuiet, Bool.and_eq_true] at first
      rw [anyMemberClash]
      split
      · rename_i y found
        have held := membersAreQuiet_iff.mp second y (List.mem_of_find?_eq_some found)
        simp [clashes_of_quiet v y.2 first.1.2 held.2, anyMemberClash_of_quiet xs ys first.2 second]
      · rfl

end

theorem same?_of_quiet {a b : Value} (first : a.isQuiet = true) (second : b.isQuiet = true) :
    a.same? b = some (a.equalApart b) := by
  simp [same?, clashes_of_quiet a b first second]

end Value

/-! ## Lists -/

section Growing

variable {α : Type} {same? : α → α → Option Bool}

theorem among?_isSome {item : α} {others : List α}
    (compared : ∀ other ∈ others, (same? other item).isSome = true) :
    (among? same? item others).isSome = true := by
  induction others with
  | nil => rfl
  | cons other rest ih =>
      obtain ⟨here, later⟩ := List.forall_mem_cons.mp compared
      obtain ⟨there, same⟩ := Option.isSome_iff_exists.mp here
      cases there <;> simp [among?, same, ih later]

theorem addNew?_isSome {found : List α} {item : α}
    (compared : ∀ other ∈ found, (same? other item).isSome = true) :
    (addNew? same? found item).isSome = true := by
  obtain ⟨there, among⟩ := Option.isSome_iff_exists.mp (among?_isSome compared)
  simp [addNew?, among]

/-- Items that can all be compared with one another can be gathered. -/
theorem foldlM_isSome (fit : α → Prop) (compared : ∀ a b, fit a → fit b → (same? a b).isSome = true)
    {items found : List α} (foundFits : ∀ item ∈ found, fit item)
    (itemsFit : ∀ item ∈ items, fit item) :
    (items.foldlM (addNew? same?) found).isSome = true := by
  induction items generalizing found with
  | nil => rfl
  | cons item rest ih =>
      obtain ⟨own, others⟩ := List.forall_mem_cons.mp itemsFit
      obtain ⟨next, added⟩ := Option.isSome_iff_exists.mp
        (addNew?_isSome fun other held => compared other item (foundFits other held) own)
      have nextFits : ∀ kept ∈ next, fit kept := fun kept held => by
        rcases mem_addNew? added held with old | rfl
        · exact foundFits kept old
        · exact own
      simpa [List.foldlM_cons, added] using ih nextFits others

theorem unique?_of_quiet {items : List Value} (quiet : ∀ item ∈ items, item.isQuiet = true) :
    (unique? items).isSome = true :=
  foldlM_isSome (fun v => v.isQuiet = true)
    (fun a b first second => by simp [Value.same?_of_quiet first second]) (by simp) quiet

end Growing

/-! ## Fragments -/

namespace Fragment

open Value

theorem same?_of_quiet {a b : Members} (first : (Value.dict a).isQuiet = true)
    (second : (Value.dict b).isQuiet = true) : (same? a b).isSome = true := by
  simp [same?, Value.same?_of_quiet first second]

mutual

/-- Quiet fragments can be joined. -/
theorem merge?_of_quiet : ∀ (right left : Members), (Value.dict left).isQuiet = true →
    (Value.dict right).isQuiet = true → (merge? left right).isSome = true
  | [], left, _, _ => rfl
  | (key, value) :: rest, left, leftQuiet, rightQuiet => by
      obtain ⟨⟨keyQuiet, valueQuiet⟩, restQuiet⟩ :=
        List.forall_mem_cons.mp ((quiet_hereditary.dict _).mp rightQuiet)
      have thereQuiet : ∀ there, Members.lookup key left = some there → there.isQuiet = true := by
        intro there found
        obtain ⟨own, held⟩ := Members.mem_of_lookup found
        exact ((quiet_hereditary.dict _).mp leftQuiet _ held).2
      obtain ⟨joined, done⟩ := Option.isSome_iff_exists.mp
        (join?_of_quiet value (Members.lookup key left) thereQuiet valueQuiet)
      have bothQuiet := quiet_hereditary.join thereQuiet valueQuiet done
      have later := merge?_of_quiet rest (Members.insert key joined left)
        (quiet_hereditary.insert keyQuiet bothQuiet leftQuiet)
        ((quiet_hereditary.dict _).mpr restQuiet)
      simpa [merge?, done] using later

theorem join?_of_quiet : ∀ (value : Value) (current : Option Value),
    (∀ there, current = some there → there.isQuiet = true) → value.isQuiet = true →
      (join? current value).isSome = true
  | .dict right, current, thereQuiet, valueQuiet => by
      simp only [join?]
      split
      · rename_i left
        simpa using merge?_of_quiet right left (thereQuiet _ rfl) valueQuiet
      · rfl
  | .list right, current, thereQuiet, valueQuiet => by
      simp only [join?]
      split
      · rename_i left
        have bothQuiet : ∀ item ∈ left ++ right, item.isQuiet = true := by
          intro item held
          rcases List.mem_append.mp held with old | new
          · exact areQuiet_iff.mp (thereQuiet _ rfl) item old
          · exact areQuiet_iff.mp valueQuiet item new
        simpa using unique?_of_quiet bothQuiet
      · rfl
  | .null, _, _, _ | .bool _, _, _, _ | .int _, _, _, _ | .float _, _, _, _ | .str _, _, _, _
  | .decimal _, _, _, _ | .primitive _, _, _, _ | .host _, _, _, _ | .pattern _, _, _, _
  | .tuple _, _, _, _ | .set _, _, _, _ => rfl

end

end Fragment

end Draftsman
