/-
# Draftsman.Proofs.Hoisting -- titles and descriptions that move to the list

A title or a description among the notes of a list's elements describes the list: it is taken from
the fragment of the elements (`remaining`) and told by that of the list, unless the list has one of
its own.  Nothing else moves: what the elements tell of themselves without a note of theirs stays,
as a format does.  The result is `visit_array_hoisted`.

A note that is not a number is the same as no other, not even as what the elements have been given,
so it would stay with them too.
-/
import Draftsman.Proofs.Overlays

namespace Draftsman

set_option autoImplicit false

open Members Document

/-! ## Taking notes away -/

/-- Removing a name keeps all members of other names. -/
theorem Members.erase_eq_filter {members : Members} (named : members.Named) (name : String) :
    erase (.str name) members = members.filter fun member => member.1.text? != some name := by
  induction members with
  | nil => rfl
  | cons member rest ih =>
      obtain ⟨own, text, fresh⟩ := named.head
      rw [erase, Value.equal_str_left, List.filter_cons, text]
      by_cases same : own = name
      · subst same
        -- no later member has the name, so nothing else is filtered out
        have later : rest.filter (fun member => member.1.text? != some own) = rest := by
          refine List.filter_eq_self.mpr fun other held => ?_
          have differ : other.1.text? ≠ some own := fun same =>
            fresh (mem_names.mpr ⟨other, held, same⟩)
          simpa using differ
        simp [later]
      · simp [same, ih named.tail]

/-- A decimal that cannot be compared is not a number. -/
theorem Value.isSignaling_of_isNotNumber {v : Value} (number : v.isNotNumber = false) :
    v.isSignaling = false := by
  cases v with
  | decimal d => cases d <;> simp_all [isNotNumber, isSignaling, Decimal.isSignaling]
  | _ => rfl

namespace Node

/-- Whether elements with some notes hand a key on to their list: it is one of some names, and the
notes have it. -/
def handsOn (names : List String) (notes : Members) (key : Value) : Bool :=
  names.any fun name => (get? name notes).isSome && key.text? == some name

/-- The fragment of some elements without what they hand on. -/
def remaining (names : List String) (notes fragment : Members) : Members :=
  fragment.filter fun member => !handsOn names notes member.1

/-- A key that is not handed on stays with what stands under it. -/
theorem get?_remaining {names : List String} {notes : Members} {name : String}
    (kept : name ∈ names → get? name notes = none) (fragment : Members) :
    get? name (remaining names notes fragment) = get? name fragment := by
  induction fragment with
  | nil => rfl
  | cons member rest ih =>
      have stays (text : member.1.text? = some name) : handsOn names notes member.1 = false := by
        refine List.any_eq_false.mpr fun other listed held => ?_
        obtain ⟨noted, same⟩ := Bool.and_eq_true_iff.mp held
        obtain rfl : name = other := by simpa [text] using same
        rw [kept listed] at noted
        cases noted
      have later : get? name (rest.filter fun member => !handsOn names notes member.1) =
          get? name rest := ih
      rw [remaining, List.filter_cons, get?_cons]
      by_cases text : member.1.text? = some name
      · simp [stays text, get?_cons, text]
      · cases handsOn names notes member.1 <;> simp [get?_cons, text, later]

/-- The notes of some names are taken away from a fragment one after the other, unless one of them
is not a number. -/
theorem foldlM_withoutNote? {names : List String} {notes : Members}
    (numbers : ∀ name ∈ names, ∀ v, get? name notes = some v → v.isNotNumber = false)
    {fragment : Members} (named : fragment.Named) :
    (pickedNotes names notes).foldlM withoutNote? fragment =
      some (remaining names notes fragment) := by
  induction names generalizing fragment with
  | nil => simp [pickedNotes, remaining, handsOn]
  | cons name rest ih =>
      obtain ⟨own, others⟩ := List.forall_mem_cons.mp numbers
      rw [pickedNotes, List.filterMap_cons]
      cases found : get? name notes with
      | none =>
          have fewer : remaining (name :: rest) notes fragment = remaining rest notes fragment := by
            simp [remaining, handsOn, found]
          rw [fewer]
          exact ih others named
      | some v =>
          have taken : withoutNote? fragment (.str name, v) =
              some (fragment.filter fun member => member.1.text? != some name) := by
            have number := own v found
            simp [withoutNote?, Value.isSignaling_of_isNotNumber number, number,
              erase_eq_filter named]
          have named' := named.erase name
          rw [erase_eq_filter named] at named'
          have both : remaining rest notes
                (fragment.filter fun member => member.1.text? != some name) =
              remaining (name :: rest) notes fragment := by
            rw [remaining, remaining, List.filter_filter]
            refine List.filter_congr fun member _ => ?_
            simp [handsOn, found, bne, Bool.and_comm]
          simp only [Option.map_some, List.foldlM_cons, taken, Option.bind_eq_bind,
            Option.bind_some]
          rw [← both]
          exact ih others named'

/-! ## Lists -/

def listKeywords (items : Members) : List (String × Value) :=
  [("type", .str "array"), ("items", .dict items)]

/-- The fragment of a list: its keywords, the notes that the elements hand on, and its own notes. -/
def listFragment (own inner items : Members) : Members :=
  update (update (Fragment.ofKeywords (listKeywords (remaining hoistedNames inner items)))
    (pickedNotes hoistedNames inner)) (pickedNotes annotationNames own)

/-- What is read in the fragment of a list: its own notes come first, then those of the elements. -/
theorem get?_listFragment (own inner items : Members) (name : String) :
    get? name (listFragment own inner items) =
      (get? name (pickedNotes annotationNames own)).or
        ((get? name (pickedNotes hoistedNames inner)).or
          ((listKeywords (remaining hoistedNames inner items)).lookup name)) := by
  have annotated : annotationNames.Nodup := by decide
  have hoisted : hoistedNames.Nodup := by decide
  rw [listFragment, get?_update (pickedNotes_named annotated own),
    get?_update (pickedNotes_named hoisted inner), Fragment.ofKeywords, get?_named]

/-- The fragment of a list, from its own notes, those of its elements and the fragment of the
elements. -/
structure Hoisted (own inner whole items : Members) : Prop where
  named : whole.Named
  /-- A title and a description are those of the list, or else those of its elements. -/
  told : ∀ name ∈ hoistedNames, get? name whole = (get? name own).or (get? name inner)
  /-- The elements are described without what they hand on. -/
  element : get? "items" whole = some (.dict (remaining hoistedNames inner items))
  /-- What the notes of the elements do not have stays with them, and so does a format. -/
  kept : ∀ name, (name ∈ hoistedNames → get? name inner = none) →
    get? name (remaining hoistedNames inner items) = get? name items
  typed : get? "type" whole = some (.str "array")
  formatted : get? "format" whole = get? "format" own
  nothingElse : ∀ name ∈ whole.names, name ∈ ["type", "items", "format"] ++ hoistedNames

theorem hoisted_listFragment (own inner items : Members) :
    Hoisted own inner (listFragment own inner items) items where
  named := by
    have keywords :
        Named (Fragment.ofKeywords (listKeywords (remaining hoistedNames inner items))) :=
      named_ofKeywords (by simp [listKeywords])
    have hoisted := pickedNotes_named (by decide : hoistedNames.Nodup) inner
    have annotated := pickedNotes_named (by decide : annotationNames.Nodup) own
    exact (keywords.update hoisted.texts).update annotated.texts
  told name listed := by
    have annotated : name ∈ annotationNames := by
      revert name
      decide
    have noKeyword : (listKeywords (remaining hoistedNames inner items)).lookup name = none := by
      have differ : name ≠ "type" ∧ name ≠ "items" := by
        revert name
        decide
      simp [listKeywords, List.lookup_cons, beq_false_of_ne differ.1, beq_false_of_ne differ.2]
    rw [get?_listFragment, get?_pickedNotes (by decide) annotated,
      get?_pickedNotes (by decide) listed, noKeyword, Option.or_none]
  element := by
    rw [get?_listFragment, get?_pickedNotes_of_unlisted (by decide),
      get?_pickedNotes_of_unlisted (by decide)]
    rfl
  kept name stays := get?_remaining stays items
  typed := by
    rw [get?_listFragment, get?_pickedNotes_of_unlisted (by decide),
      get?_pickedNotes_of_unlisted (by decide)]
    rfl
  formatted := by
    have noKeyword :
        (listKeywords (remaining hoistedNames inner items)).lookup "format" = none := rfl
    rw [get?_listFragment, get?_pickedNotes (by decide) (by decide),
      get?_pickedNotes_of_unlisted (by decide), noKeyword, Option.or_none, Option.or_none]
  nothingElse name there := by
    by_contra other
    have apart : name ∉ annotationNames ∧ name ∉ hoistedNames ∧ name ≠ "type" ∧ name ≠ "items" := by
      refine ⟨fun listed => other ?_, fun listed => other ?_, ?_, ?_⟩
      · have known : ∀ own ∈ annotationNames,
            own ∈ ["type", "items", "format"] ++ hoistedNames := by decide
        exact known name listed
      · exact List.mem_append_right _ listed
      · rintro rfl
        exact other (by decide)
      · rintro rfl
        exact other (by decide)
    obtain ⟨unannotated, unhoisted, noType, noItems⟩ := apart
    have absent : get? name (listFragment own inner items) = none := by
      rw [get?_listFragment, get?_pickedNotes_of_unlisted unannotated,
        get?_pickedNotes_of_unlisted unhoisted]
      simp [listKeywords, List.lookup_cons, beq_false_of_ne noType, beq_false_of_ne noItems]
    exact get?_eq_none_iff.mp absent there

/-- A list of elements before its own notes are laid over it: the title and the description of the
elements have moved. -/
theorem arrayFragment_dict {inner items : Members}
    (numbers : ∀ name ∈ hoistedNames, ∀ v, get? name inner = some v → v.isNotNumber = false)
    (named : items.Named) :
    arrayFragment items (.dict inner) =
      .ok (update (Fragment.ofKeywords (listKeywords (remaining hoistedNames inner items)))
        (pickedNotes hoistedNames inner)) := by
  have picked : annotations hoistedNames (.dict inner) = some (pickedNotes hoistedNames inner) := by
    rw [annotations_dict, ofList_of_named (pickedNotes_named (by decide) inner)]
  simp only [arrayFragment, picked, typed, foldlM_withoutNote? numbers named, decided, bind,
    Except.bind]
  rfl

/-- A list compiles exactly where its elements do, and its fragment is theirs with their title and
description moved to the list. -/
theorem visit_array_hoisted (o : Options) (ctx : Context) {member : Node} {inner : Members}
    (held : member.notes = .dict inner)
    (numbers : ∀ name ∈ hoistedNames, ∀ v, get? name inner = some v → v.isNotNumber = false)
    (own : Members) :
    Agree (Hoisted own inner) (visit o ctx (array member (.dict own)))
      (o.allow ctx.depth >>= fun _ => visit o ctx.element member) := by
  rw [visit]
  refine (Agree.same (o.allow ctx.depth)).bind fun _ => ?_
  cases visited : visit o ctx.element member with
  | error fault => exact .error fault
  | ok items =>
      have moved := arrayFragment_dict numbers (visit_named visited)
      simp only [held, bind, Except.bind, moved, finish_dict]
      exact .ok (hoisted_listFragment own inner items)

def rowNode (notes : Members) : Node :=
  constructor (nominal (.primitive .string)
    (.dict (Members.named [("title", .str "Cell"), ("description", .str "A cell")]))) .null
    (.dict notes)

def rowNotes : Members :=
  Members.named [("format", .str "email"), ("description", .str "A row")]

/-- The description of the rows describes their list; the title of the cells stays with them. -/
theorem visit_array_hoisted_rows :
    (rowNode rowNotes).notes = .dict rowNotes ∧
      (∀ name ∈ hoistedNames, ∀ v, get? name rowNotes = some v → v.isNotNumber = false) ∧
      (∃ whole items, visit {} Context.root.element (rowNode rowNotes) = .ok items ∧
        visit {} Context.root (array (rowNode rowNotes)
          (.dict (Members.named [("title", .str "Rows")]))) = .ok whole ∧
        Hoisted (Members.named [("title", .str "Rows")]) rowNotes whole items ∧
        whole = Members.named [("type", .str "array"),
          ("items", .dict (Members.named [("type", .str "string"), ("title", .str "Cell"),
            ("format", .str "email")])),
          ("description", .str "A row"), ("title", .str "Rows")]) := by
  have held : (rowNode rowNotes).notes = .dict rowNotes := rfl
  have numbers : ∀ name ∈ hoistedNames, ∀ v, get? name rowNotes = some v →
      v.isNotNumber = false := by
    intro name listed v found
    rcases List.mem_cons.mp listed with rfl | listed
    · cases found
    · obtain rfl := List.mem_singleton.mp listed
      obtain rfl := Option.some.inj found
      rfl
  refine ⟨held, numbers, ?_⟩
  have agree := visit_array_hoisted {} Context.root held numbers
    (Members.named [("title", .str "Rows")])
  cases agree with
  | ok hoisted => exact ⟨_, _, rfl, rfl, hoisted, rfl⟩

end Node

end Draftsman
