/-
# Draftsman.Members -- dictionaries as ordered lists of members

A dictionary keeps its members in the order in which their keys first came.
Writing to a key that is there replaces the value and keeps the key and its place;
writing to a new key appends.  Keys are compared by `Value.equal`.

* `lookup`, `has` read a member, `insert`, `erase`, `update` write;
* `get?` reads the member of a name.
-/
import Draftsman.Value.Equality

namespace Draftsman

set_option autoImplicit false

namespace Members

def lookup (key : Value) : Members → Option Value
  | [] => none
  | (k, v) :: rest => if key.equal k then some v else lookup key rest

def has (key : Value) (members : Members) : Bool := (lookup key members).isSome

/-- Writes a member: in place where the key is there, at the end otherwise. -/
def insert (key value : Value) : Members → Members
  | [] => [(key, value)]
  | (k, v) :: rest => if key.equal k then (k, value) :: rest else (k, v) :: insert key value rest

def erase (key : Value) : Members → Members
  | [] => []
  | (k, v) :: rest => if key.equal k then rest else (k, v) :: erase key rest

/-- Writes all members of the second dictionary over the first. -/
def update (members others : Members) : Members :=
  others.foldl (fun acc member => insert member.1 member.2 acc) members

/-- The dictionary that some members make when written one after the other. -/
def ofList (members : List (Value × Value)) : Members := update [] members

def get? (name : String) (members : Members) : Option Value := lookup (.str name) members

def named (members : List (String × Value)) : Members :=
  members.map fun member => (Value.str member.1, member.2)

/-- What is written to a key is found there, if the key equals itself. -/
theorem lookup_insert_self {key : Value} (same : key.equal key = true) (value : Value)
    (members : Members) : lookup key (insert key value members) = some value := by
  induction members with
  | nil => simp [insert, lookup, same]
  | cons member rest ih =>
      by_cases held : key.equal member.1 = true
      · simp [insert, lookup, held]
      · simp [insert, lookup, held, ih]

/-- Writing appends a key that is new and keeps the keys otherwise. -/
theorem map_fst_insert (key value : Value) (members : Members) :
    (insert key value members).map Prod.fst =
      members.map Prod.fst ++ if has key members then [] else [key] := by
  induction members with
  | nil => simp [insert, has, lookup]
  | cons member rest ih =>
      by_cases held : key.equal member.1 = true
      · simp [insert, has, lookup, held]
      · by_cases found : (lookup key rest).isSome = true <;>
          simp_all [insert, has, lookup]

theorem get?_insert_self (name : String) (value : Value) (members : Members) :
    get? name (insert (.str name) value members) = some value :=
  lookup_insert_self (Value.equal_str_self name) value members

/-- Writing under one name leaves what stands under another. -/
theorem get?_insert_of_ne {name other : String} (differ : name ≠ other) (value : Value)
    (members : Members) : get? name (insert (.str other) value members) = get? name members := by
  induction members with
  | nil => simp [get?, insert, lookup, Value.equal_str_left, Value.text?, Ne.symm differ]
  | cons member rest ih =>
      simp only [get?] at ih
      by_cases held : member.1.text? = some other
      · simp [get?, insert, lookup, Value.equal_str_left, held, Ne.symm differ]
      · simp [get?, insert, lookup, Value.equal_str_left, held, ih]

end Members

end Draftsman
