/-
# Draftsman.Proofs.Quiet -- the fragments of visits can be compared

A node is regular when its notes are a dictionary, its names are texts, its slots for
several nodes can be gone through, and no signaling decimal is among its values
(`Node.Regular`); what stands in the slots of its children is not looked at.

The fragments of regular descriptions are quiet (`quiet_kept`), as what their nodes bring with
them is (`QuietValues.brings`).  So whatever a visit does with them succeeds: joining and gathering
them, laying notes over them, adding them to a field set (`finish_ok`, `joined_ok`, `gather_ok`,
`arrayFragment_ok`, `add_ok`).
-/
import Draftsman.Proofs.Comparison
import Draftsman.Proofs.Contents

namespace Draftsman

set_option autoImplicit false

open Value

/-! ## Quiet fragments -/

/-- A fragment with no signaling decimal in it. -/
abbrev QuietFragment (fragment : Members) : Prop := (Value.dict fragment).isQuiet = true

theorem quiet_iff {fragment : Members} :
    QuietFragment fragment ↔
      ∀ member ∈ fragment, member.1.isQuiet = true ∧ member.2.isQuiet = true :=
  membersAreQuiet_iff

theorem quiet_inherited : Inherited (fun key => key.isQuiet = true) fun v => v.isQuiet = true :=
  { quiet_hereditary with textKey := fun _ => rfl, text := fun _ => rfl, mark := rfl }

theorem quiet_note {notes : Value} (quiet : notes.isQuiet = true) {members : Members}
    {name : String} {v : Value} (same : notes = .dict members)
    (found : Members.get? name members = some v) : v.isQuiet = true := by
  obtain ⟨key, -, held⟩ := Members.mem_of_get? found
  rw [same] at quiet
  exact (quiet_iff.mp quiet _ held).2

namespace Node

/-! ## Regular nodes -/

/-- Whether a slot for alternatives can be gone through. -/
def offersAlternatives : Children → Bool
  | .nodes _ => true
  | .value v => v.items?.isSome

def offersFields : Children → Bool
  | .nodes items => items.all isKey
  | .value v =>
      match v.items? with
      | some items => items.isEmpty
      | none => false

/-- A node as it should be, but for what stands in the slots of its children. -/
structure Regular (node : Node) : Prop where
  noted : ∃ members, node.notes = .dict members
  notesQuiet : node.notes.isQuiet = true
  operandQuiet : ∀ {name operand notes}, node = predicate name operand notes →
    operand.isQuiet = true
  predicateName : ∀ {name operand notes}, node = predicate name operand notes →
    name.text?.isSome = true
  fieldName : ∀ {name type required notes}, node = key name type required notes →
    name.text?.isSome = true
  alternatives : ∀ {types notes}, node = sum types notes → offersAlternatives types = true
  fields : ∀ {keys notes}, node = schema keys notes → offersFields keys = true

/-- A node with no signaling decimal among the values that its fragment is made of. -/
structure QuietValues (node : Node) : Prop where
  notes : node.notes.isQuiet = true
  operand : ∀ {name operand notes}, node = predicate name operand notes → operand.isQuiet = true
  fieldName : ∀ {name type required notes}, node = key name type required notes →
    name.isQuiet = true

theorem Regular.quietValues {node : Node} (regular : node.Regular) : node.QuietValues :=
  ⟨regular.notesQuiet, regular.operandQuiet, fun same => isQuiet_of_text? (regular.fieldName same)⟩

/-! ## Quiet visits -/

theorem carried_quiet : Carried fun v => v.isQuiet = true where
  null := rfl
  int _ := rfl
  float _ := rfl
  text _ := rfl
  list := areQuiet_iff.mpr
  exclusion quiet := quiet_inherited.ofKeywords (List.forall_mem_singleton.mpr quiet)
  inside := by rintro items (quiet | quiet | quiet) <;> exact areQuiet_iff.mp quiet
  keys quiet member held := (membersAreQuiet_iff.mp quiet member held).1

theorem QuietValues.brings {node : Node} (quiet : node.QuietValues) :
    node.Brings (fun key => key.isQuiet = true) fun v => v.isQuiet = true where
  note notes found := quiet_note quiet.notes notes found
  operand same _ applied := carried_quiet.reading (quiet.operand same) applied
  fieldName same _ := ⟨quiet.fieldName same, quiet.fieldName same⟩

/-- Every way in which a visit makes a fragment keeps it quiet. -/
theorem quietValues_kept (o : Options) : Kept o QuietValues fun _ => QuietFragment :=
  (brought_kept quiet_inherited o).weaken QuietValues.brings

theorem quiet_kept (o : Options) : Kept o Regular fun _ => QuietFragment :=
  (quietValues_kept o).weaken Regular.quietValues

/-! ## Steps that succeed -/

theorem annotations_ok (names : List String) (members : Members) :
    (annotations names (.dict members)).isSome = true := by
  simp only [annotations]
  split <;> rfl

/-- Notes that are a dictionary can be laid over any fragment. -/
theorem finish_ok {notes : Value} (noted : ∃ members, notes = .dict members) (fragment : Members) :
    ∃ whole, finish notes fragment = .ok whole := by
  obtain ⟨members, rfl⟩ := noted
  obtain ⟨own, picked⟩ := Option.isSome_iff_exists.mp (annotations_ok annotationNames members)
  exact ⟨Members.update fragment own, by simp [finish, overlay, picked, typed]⟩

/-- Quiet fragments can be joined and noted. -/
theorem joined_ok {notes : Value} (noted : ∃ members, notes = .dict members)
    {base extra : Members} (baseQuiet : QuietFragment base) (extraQuiet : QuietFragment extra) :
    ∃ whole, (decided (Fragment.merge? base extra) >>= finish notes) = .ok whole := by
  obtain ⟨both, joined⟩ := Option.isSome_iff_exists.mp
    (Fragment.merge?_of_quiet extra base baseQuiet extraQuiet)
  obtain ⟨whole, finished⟩ := finish_ok noted both
  exact ⟨whole, by simp [joined, decided, finished, bind, Except.bind]⟩

/-- A quiet fragment can be gathered with others. -/
theorem gather_ok {found : List Members} {fragment : Members}
    (foundQuiet : ∀ result ∈ found, QuietFragment result) (quiet : QuietFragment fragment) :
    ∃ next, gather found fragment = .ok next := by
  obtain ⟨next, added⟩ := Option.isSome_iff_exists.mp
    (addNew?_isSome fun other held => Fragment.same?_of_quiet (foundQuiet other held) quiet)
  exact ⟨next, by simp [gather, added, decided]⟩

theorem without_isSome {hoisted : Members} (quiet : QuietFragment hoisted) (items : Members) :
    (hoisted.foldlM withoutNote? items).isSome = true := by
  induction hoisted generalizing items with
  | nil => rfl
  | cons note rest ih =>
      obtain ⟨⟨-, own⟩, later⟩ := List.forall_mem_cons.mp (quiet_iff.mp quiet)
      have calm : note.2.isSignaling = false := by
        cases value : note.2 <;> simp_all [Value.isSignaling, isQuiet]
      simp only [List.foldlM_cons, withoutNote?, calm, Bool.false_eq_true, if_false]
      exact ih (quiet_iff.mpr later) _

/-- The title and the description of elements can be moved to their list. -/
theorem arrayFragment_ok {notes : Value} (noted : ∃ members, notes = .dict members)
    (quiet : notes.isQuiet = true) (items : Members) :
    ∃ fragment, arrayFragment items notes = .ok fragment := by
  obtain ⟨members, rfl⟩ := noted
  obtain ⟨hoisted, picked⟩ := Option.isSome_iff_exists.mp (annotations_ok hoistedNames members)
  have hoistedQuiet := quiet_inherited.annotations (quiet_note quiet) (by decide) picked
  obtain ⟨left, taken⟩ := Option.isSome_iff_exists.mp (without_isSome hoistedQuiet items)
  exact ⟨_, by simp [arrayFragment, picked, taken, typed, decided, bind, Except.bind]; rfl⟩

/-- A field can be added to a field set if its name can be a key. -/
theorem add_keyed_ok {name required notes : Value} {type : Node} (keyed : name.isKey = true)
    (fields : Fields) (fragment : Members) :
    ∃ next, fields.add (key name type required notes) fragment = .ok next :=
  ⟨_, by simp [Fields.add, name?, required?, present, keyed, bind, Except.bind]; rfl⟩

/-- A field with a text for a name can be added to a field set. -/
theorem add_ok {node : Node} (field : node.isKey = true) (regular : node.Regular)
    (fields : Fields) (fragment : Members) : ∃ next, fields.add node fragment = .ok next := by
  cases node with
  | key name type required notes =>
      obtain ⟨text, found⟩ := Option.isSome_iff_exists.mp (regular.fieldName rfl)
      exact add_keyed_ok (Value.isKey_of_text? found) fields fragment
  | _ => cases field

end Node

end Draftsman
