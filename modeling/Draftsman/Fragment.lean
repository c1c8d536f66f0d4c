/-
# Draftsman.Fragment -- joining pieces of documents

A fragment is a dictionary of keywords.  Two of them are joined key by key:
dictionaries are joined in turn, lists become the list of their distinct items,
and of any other two values the right one stays.  The keys of the left fragment
keep their order and come first.

* `unique?` keeps the first of each group of equal values;
* `Fragment.merge?` joins two fragments; it recurses on the right one.

Both compare values, and have no result where a comparison has none.
-/
import Draftsman.Members

namespace Draftsman

set_option autoImplicit false

def addNew {α : Type} (same : α → α → Bool) (found : List α) (item : α) : List α :=
  if found.any (same · item) then found else found ++ [item]

/-- Whether an item is among others.  One after the other is compared with it, up to
the first that is the same. -/
def among? {α : Type} (same? : α → α → Option Bool) (item : α) : List α → Option Bool
  | [] => some false
  | other :: rest => do
      if ← same? other item then some true else among? same? item rest

/-- Adds an item to the end of a list unless it is there; `none` if a comparison has
no result. -/
def addNew? {α : Type} (same? : α → α → Option Bool) (found : List α) (item : α) :
    Option (List α) := do
  let there ← among? same? item found
  pure (if there then found else found ++ [item])

/-- The first of each group of items that are the same, in order. -/
def distinct? {α : Type} (same? : α → α → Option Bool) (items : List α) : Option (List α) :=
  items.foldlM (addNew? same?) []

/-- Where all comparisons have results, an item is added as if they could not fail. -/
theorem addNew?_some {α : Type} (same : α → α → Bool) (found : List α) (item : α) :
    addNew? (fun a b => some (same a b)) found item = some (addNew same found item) := by
  have among (others : List α) :
      among? (fun a b => some (same a b)) item others = some (others.any (same · item)) := by
    induction others with
    | nil => rfl
    | cons other rest ih => by_cases held : same other item <;> simp [among?, held, ih]
  simp [addNew?, addNew, among]

/-- The first of each group of equal values, in order; `none` if a comparison has no
result. -/
def unique? (items : List Value) : Option (List Value) := distinct? Value.same? items

namespace Fragment

def ofKeywords (members : List (String × Value)) : Members := Members.named members

def equal (a b : Members) : Bool := (Value.dict a).equal (.dict b)

/-- Whether two fragments at different places count as the same. -/
def equalApart (a b : Members) : Bool := (Value.dict a).equalApart (.dict b)

/-- Compares two fragments; `none` is no result. -/
def same? (a b : Members) : Option Bool := (Value.dict a).same? (.dict b)

mutual

/-- Joins the right fragment into the left one; `none` if a comparison has no result. -/
def merge? (left : Members) : Members → Option Members
  | [] => some left
  | (k, v) :: rest => do
      let joined ← join? (Members.lookup k left) v
      merge? (Members.insert k joined left) rest

/-- Joins a value into what stands at its key. -/
def join? (current : Option Value) : Value → Option Value
  | .dict right =>
      match current with
      | some (.dict left) => (merge? left right).map Value.dict
      | _ => some (.dict right)
  | .list right =>
      match current with
      | some (.list left) => (unique? (left ++ right)).map Value.list
      | _ => some (.list right)
  | v => some v

end

end Fragment

end Draftsman
