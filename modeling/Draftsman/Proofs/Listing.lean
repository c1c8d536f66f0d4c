/-
# Draftsman.Proofs.Listing -- what a document does not tell

Of what a node carries besides other nodes, a document tells little.  The function of a
constructor, the name of an object type and the listed values of an enumeration do not
reach it, nor do notes other than those of four names (`listedNames`).  One thing more is
seen: whether a union among the alternatives of another has any notes, since without them
its alternatives are those of the union around it.

`Node.listedOnly` takes all the rest away.  The main result is `compile_eq_of_listedOnly`:
descriptions from which that leaves the same have the same document, with its members in
the same order, or fail with the same fault.
-/
import Draftsman.Proofs.Annotations
import Draftsman.Proofs.Rewording

namespace Draftsman

set_option autoImplicit false

/-! ## Notes of some names -/

theorem get?_pickedNotes {names : List String} (different : names.Nodup) {name : String}
    (listed : name ∈ names) (own : Members) :
    Members.get? name (pickedNotes names own) = Members.get? name own := by
  cases found : Members.get? name own with
  | some v =>
      have held : (Value.str name, v) ∈ pickedNotes names own :=
        mem_pickedNotes.mpr ⟨name, listed, rfl, found⟩
      exact (pickedNotes_named different own).get?_of_mem rfl held
  | none =>
      refine Option.eq_none_iff_forall_ne_some.mpr fun v there => ?_
      cases found.symm.trans (note_of_get?_pickedNotes there).2

/-- The annotations of a dictionary, also of one without members. -/
theorem annotations_dict (names : List String) (own : Members) :
    annotations names (.dict own) = some (Members.ofList (pickedNotes names own)) := by
  cases own with
  | nil =>
      have none : pickedNotes names [] = [] := pickedNotes_eq_nil fun _ _ => rfl
      rw [none]
      rfl
  | cons member rest => rfl

theorem pickedNotes_congr {names : List String} {own other : Members}
    (same : ∀ name ∈ names, Members.get? name own = Members.get? name other) :
    pickedNotes names own = pickedNotes names other :=
  List.filterMap_congr fun name listed => by rw [same name listed]

def listedNames : List String := ["title", "description", "format", "$ref"]

/-- Notes that agree under the listed names bring the same into a document. -/
theorem SameRemarks.of_listed {own other : Members}
    (same : ∀ name ∈ listedNames, Members.get? name own = Members.get? name other) :
    SameRemarks (.dict own) (.dict other) where
  laid := by
    rw [annotations_dict, annotations_dict,
      pickedNotes_congr fun name listed => same name (by revert name; decide)]
  hoisted := by
    rw [annotations_dict, annotations_dict,
      pickedNotes_congr fun name listed => same name (by revert name; decide)]
  referred fallback := by rw [noteOr?, noteOr?, same "$ref" (by decide)]

namespace Node

/-- The listed notes alone. -/
def listedNotes : Value → Value
  | .dict own => .dict (pickedNotes listedNames own)
  | v => v

/-- The listed notes, and a blank one if there were any notes at all. -/
def listedNotesOrBlank : Value → Value
  | .dict [] => .dict []
  | .dict own => .dict ((.null, .null) :: pickedNotes listedNames own)
  | v => v

theorem sameRemarks_listedNotes (notes : Value) : SameRemarks (listedNotes notes) notes := by
  cases notes with
  | dict own => exact .of_listed fun name listed => get?_pickedNotes (by decide) listed own
  | _ => exact .refl _

theorem sameRemarks_listedNotesOrBlank (notes : Value) :
    SameRemarks (listedNotesOrBlank notes) notes := by
  unfold listedNotesOrBlank
  split
  · exact .refl _
  · rename_i own _
    refine .of_listed fun name listed => ?_
    have blank : Value.null.text? ≠ some name := nofun
    rw [Members.get?_cons, if_neg blank]
    exact get?_pickedNotes (by decide) listed own
  · exact .refl _

theorem truthy_listedNotesOrBlank (notes : Value) :
    (listedNotesOrBlank notes).truthy = notes.truthy := by
  unfold listedNotesOrBlank
  split
  · rfl
  · rename_i own some
    cases own with
    | nil => exact absurd rfl some
    | cons member rest => rfl
  · rfl

/-- Only what a document can tell.  The name of an object type stays where a field should
stand. -/
def listing : Rewording where
  fn _ := .null
  title position name :=
    match position with
    | .member => name
    | _ => .null
  values _ := .nodes []
  notes := listedNotes
  unionNotes position :=
    match position with
    | .among => listedNotesOrBlank
    | _ => listedNotes

/-- A description without what its document does not tell. -/
def listedOnly : Node → Node := reword listing .other

theorem listing_faithful : listing.Faithful where
  entry _ _ := rfl
  left_null := rfl
  left_primitive _ := rfl
  left_truthy _ := rfl
  standsFor _ _ := rfl
  predicate _ _ _ _ := rfl
  title _ := rfl
  root := rfl
  notes := sameRemarks_listedNotes
  unionNotes position notes := by
    cases position with
    | among => exact sameRemarks_listedNotesOrBlank notes
    | _ => exact sameRemarks_listedNotes notes
  among_truthy := truthy_listedNotesOrBlank

/-- What is not listed never reaches a document. -/
theorem compile_eq_of_listedOnly (o : Options) {one other : Node}
    (same : one.listedOnly = other.listedOnly) : one.compile o = other.compile o := by
  have listed (node : Node) : node.listedOnly.compile o = node.compile o :=
    compile_reword listing_faithful o node
  rw [← listed one, ← listed other, same]

/-- A list of named things: an enumeration of texts, or a union of its own.  The function,
the name, the listed values and some of the notes are left open. -/
def tokenNode (fn name : Value) (values : Children) (own of : Members) : Node :=
  array (sum (.nodes [
    enum (nominal (.primitive .string) (.dict own)) values (.dict own),
    sum (.nodes [
      constructor (nominal (.primitive .integer) (.dict [])) fn (.dict []),
      aggregate name (plain .null) (.dict own)]) (.dict of)])
    (.dict ((.str "title", .str "token") :: own))) (.dict own)

theorem compile_eq_of_listedOnly_token :
    (tokenNode .null (.str "Coin") (.nodes []) []
        (Members.named [("source", .str "mint")])).listedOnly =
      (tokenNode (.host .text) (.int 7) (.nodes [plain (.str "a"), plain (.str "b")])
        (Members.named [("author", .str "clerk"), ("$id", .int 3)])
        (Members.named [("deprecated", .bool true), ("author", .null)])).listedOnly ∧
    (tokenNode .null (.str "Coin") (.nodes []) []
        (Members.named [("source", .str "mint")])).compile {} =
      (tokenNode (.host .text) (.int 7) (.nodes [plain (.str "a"), plain (.str "b")])
        (Members.named [("author", .str "clerk"), ("$id", .int 3)])
        (Members.named [("deprecated", .bool true), ("author", .null)])).compile {} :=
  ⟨rfl, compile_eq_of_listedOnly {} rfl⟩

end Node

end Draftsman
