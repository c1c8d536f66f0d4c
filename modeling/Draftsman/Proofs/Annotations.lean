/-
# Draftsman.Proofs.Annotations -- what notes bring into a fragment

Of the notes of a node only a few reach its fragment, each under its own name
(`mem_annotations`), and no name twice (`annotations_named`).
-/
import Draftsman.Proofs.Dictionary

namespace Draftsman

set_option autoImplicit false

/-- A note is read from a dictionary. -/
theorem noteOr?_eq_some {notes fallback v : Value} {name : String}
    (read : noteOr? notes name fallback = some v) :
    ∃ members, notes = .dict members ∧ (Members.get? name members).getD fallback = v := by
  cases notes with
  | dict members => exact ⟨members, rfl, Option.some.inj read⟩
  | _ => cases read

def pickedNotes (names : List String) (notes : Members) : Members :=
  names.filterMap fun name => (Members.get? name notes).map fun v => (.str name, v)

theorem mem_pickedNotes {names : List String} {notes : Members} {member : Value × Value} :
    member ∈ pickedNotes names notes ↔
      ∃ name ∈ names, member.1 = .str name ∧ Members.get? name notes = some member.2 := by
  obtain ⟨key, value⟩ := member
  simp only [pickedNotes, List.mem_filterMap, Option.map_eq_some_iff, Prod.mk.injEq]
  constructor
  · rintro ⟨name, held, v, found, rfl, rfl⟩
    exact ⟨name, held, rfl, found⟩
  · rintro ⟨name, held, rfl, found⟩
    exact ⟨name, held, value, found, rfl, rfl⟩

theorem pickedNotes_named {names : List String} (different : names.Nodup) (notes : Members) :
    Members.Named (pickedNotes names notes) := by
  induction names with
  | nil => exact Members.Named.nil
  | cons name rest ih =>
      obtain ⟨fresh, different⟩ := List.nodup_cons.mp different
      rw [pickedNotes, List.filterMap_cons]
      cases Members.get? name notes with
      | none => exact ih different
      | some v =>
          refine Members.Named.cons rfl (fun held => fresh ?_) (ih different)
          obtain ⟨member, there, text⟩ := Members.mem_names.mp held
          obtain ⟨other, listed, key, -⟩ := mem_pickedNotes.mp there
          rw [key] at text
          exact Option.some.inj text ▸ listed

/-- What is picked under a name is the note of that name. -/
theorem note_of_get?_pickedNotes {names : List String} {notes : Members} {name : String} {v : Value}
    (found : Members.get? name (pickedNotes names notes) = some v) :
    name ∈ names ∧ Members.get? name notes = some v := by
  obtain ⟨key, text, held⟩ := Members.mem_of_get? found
  obtain ⟨other, listed, own, value⟩ := mem_pickedNotes.mp held
  obtain rfl : key = .str other := own
  obtain rfl : other = name := Option.some.inj text
  exact ⟨listed, value⟩

theorem get?_pickedNotes_of_unlisted {names : List String} {name : String}
    (unlisted : name ∉ names) (notes : Members) :
    Members.get? name (pickedNotes names notes) = none :=
  Option.eq_none_iff_forall_ne_some.mpr fun _ found => unlisted (note_of_get?_pickedNotes found).1

theorem pickedNotes_eq_nil {names : List String} {notes : Members}
    (absent : ∀ name ∈ names, Members.get? name notes = none) : pickedNotes names notes = [] :=
  List.filterMap_eq_nil_iff.mpr fun name listed => by rw [absent name listed]; rfl

/-- The annotations of a node are picked from its notes, or there are none. -/
theorem annotations_cases {names : List String} (different : names.Nodup) {notes : Value}
    {own : Members} (picked : annotations names notes = some own) :
    own = [] ∨ ∃ members, notes = .dict members ∧ own = pickedNotes names members := by
  simp only [annotations] at picked
  split at picked
  · split at picked
    · refine .inr ⟨_, rfl, ?_⟩
      rw [← Option.some.inj picked]
      exact Members.ofList_of_named (pickedNotes_named different _)
    · simp only [barren?] at picked
      split at picked
      · exact .inl (Option.some.inj picked).symm
      · cases picked
  · exact .inl (Option.some.inj picked).symm

theorem annotations_named {names : List String} (different : names.Nodup) {notes : Value}
    {own : Members} (picked : annotations names notes = some own) : Members.Named own := by
  rcases annotations_cases different picked with rfl | ⟨members, -, rfl⟩
  · exact Members.Named.nil
  · exact pickedNotes_named different members

/-- An annotation is a note of one of the names. -/
theorem mem_annotations {names : List String} (different : names.Nodup) {notes : Value}
    {own : Members} (picked : annotations names notes = some own) {member : Value × Value}
    (held : member ∈ own) :
    ∃ name ∈ names, member.1 = .str name ∧
      ∃ members, notes = .dict members ∧ Members.get? name members = some member.2 := by
  rcases annotations_cases different picked with rfl | ⟨members, rfl, rfl⟩
  · cases held
  · obtain ⟨name, listed, key, found⟩ := mem_pickedNotes.mp held
    exact ⟨name, listed, key, members, rfl, found⟩

/-- Writing annotations leaves what stands under other names. -/
theorem get?_update_annotations {names : List String} (different : names.Nodup) {notes : Value}
    {own : Members} (picked : annotations names notes = some own) {name : String}
    (other : name ∉ names) (fragment : Members) :
    Members.get? name (Members.update fragment own) = Members.get? name fragment := by
  have absent : Members.get? name own = none := by
    rcases annotations_cases different picked with rfl | ⟨members, -, rfl⟩
    · rfl
    · exact get?_pickedNotes_of_unlisted other members
  rw [Members.get?_update (annotations_named different picked), absent, Option.none_or]

/-- The annotations of a node leave what stands under other names. -/
theorem get?_overlay {fragment whole : Members} {notes : Value} {name : String}
    (noted : overlay fragment notes = some whole) (other : name ∉ annotationNames) :
    Members.get? name whole = Members.get? name fragment := by
  obtain ⟨own, picked, rfl⟩ := Option.map_eq_some_iff.mp noted
  exact get?_update_annotations (by decide) picked other fragment

end Draftsman
