/-
# Draftsman.Proofs.Locating -- the place that a message names

A message about a malformed tree starts with the text of a place.  That text can be read back: what
stands between its strokes, up to the first colon of the message, are the steps (`Path.told`), a
name for a step into a dictionary and a number for one into a list.  Going into a tree by these
steps leads to the value at the place (`Path.resolve?_told`), as long as no name on the way has a
stroke or a colon in it (`Path.Plain`).
-/
import Draftsman.Node.Path

namespace Draftsman

set_option autoImplicit false

def digits? (segment : String) : Option Nat :=
  if !segment.toList.isEmpty && segment.toList.all Char.isDigit then
    some (Nat.ofDigitChars 10 segment.toList 0)
  else none

theorem toList_toString (index : Nat) : (toString index).toList = Nat.toDigits 10 index := by
  rw [Nat.toString_eq_ofList_toDigits, String.toList_ofList]

/-- A number is read back from its digits. -/
theorem digits?_toString (index : Nat) : digits? (toString index) = some index := by
  have filled : (Nat.toDigits 10 index).isEmpty = false := by simp [Nat.toDigits_ne_nil]
  have written : (Nat.toDigits 10 index).all Char.isDigit = true :=
    List.all_eq_true.mpr fun _ => Nat.isDigit_of_mem_toDigits (by decide) (by decide)
  simp only [digits?, toList_toString, filled, written, Bool.not_false, Bool.and_self, if_true,
    Nat.ofDigitChars_ten_toDigits]

/-- Goes into a value by texts: into a dictionary by a name, into a list by a number. -/
def Value.resolve? : List String → Value → Option Value
  | [], v => some v
  | segment :: rest, .dict members => (Members.get? segment members).bind (resolve? rest)
  | segment :: rest, .list items =>
      ((digits? segment).bind fun index => items[index]?).bind (resolve? rest)
  | _ :: _, _ => none

def Step.segment : Step → String
  | member name => name
  | item index => toString index

theorem Step.text_eq (step : Step) : step.text = "/" ++ step.segment := by
  cases step <;> rfl

namespace Path

/-- The steps of a place as a message tells them. -/
def told (message : String) : List String :=
  ((message.toList.takeWhile (· != ':')).splitOn '/').tail.map String.ofList

/-- A place that is reached by names without strokes and colons. -/
def Plain (path : Path) : Prop :=
  ∀ name, .member name ∈ path → '/' ∉ name.toList ∧ ':' ∉ name.toList

/-- Numbers are written without strokes and colons. -/
theorem not_mem_toString {c : Char} (other : c.isDigit = false) (index : Nat) :
    c ∉ (toString index).toList := by
  intro held
  rw [toList_toString] at held
  rw [Nat.isDigit_of_mem_toDigits (by decide) (by decide) held] at other
  cases other

theorem Plain.segment {path : Path} (plain : Plain path) {step : Step} (held : step ∈ path) :
    '/' ∉ step.segment.toList ∧ ':' ∉ step.segment.toList := by
  cases step with
  | member name => exact plain name held
  | item index => exact ⟨not_mem_toString (by decide) index, not_mem_toString (by decide) index⟩

theorem toList_text (path : Path) :
    (text path).toList = '#' :: path.flatMap fun step => '/' :: step.segment.toList := by
  simp [text, List.flatMap_map, Step.text_eq]

/-- Texts with a stroke before each of them are the same set apart by strokes. -/
theorem append_flatMap_eq_intercalate (first : List Char) (path : Path) :
    (first ++ path.flatMap fun step => '/' :: step.segment.toList) =
      ['/'].intercalate (first :: path.map fun step => step.segment.toList) := by
  induction path generalizing first with
  | nil => simp [List.intercalate]
  | cons step rest ih =>
      rw [List.map_cons, List.intercalate_cons_cons, ← ih, List.flatMap_cons]
      simp

/-- The steps of a place can be read off every message that tells it before a colon. -/
theorem told_text {path : Path} (plain : path.Plain) (rest : String) :
    told (text path ++ ": " ++ rest) = path.map Step.segment := by
  have noColon : ∀ c ∈ (text path).toList, (c != ':') = true := by
    intro c held
    rw [bne_iff_ne]
    rintro rfl
    rw [toList_text] at held
    rcases List.mem_cons.mp held with sign | held
    · cases sign
    · obtain ⟨step, there, held⟩ := List.mem_flatMap.mp held
      rcases List.mem_cons.mp held with stroke | held
      · cases stroke
      · exact (plain.segment there).2 held
  have place : (text path ++ ": " ++ rest).toList.takeWhile (· != ':') = (text path).toList := by
    rw [String.toList_append, String.toList_append, List.append_assoc,
      List.takeWhile_append_of_pos noColon]
    simp
  have noStroke : ∀ segment ∈ ['#'] :: path.map fun step => step.segment.toList,
      '/' ∉ segment := by
    refine List.forall_mem_cons.mpr ⟨by decide, fun segment held => ?_⟩
    obtain ⟨step, there, rfl⟩ := List.mem_map.mp held
    exact (plain.segment there).1
  have apart := append_flatMap_eq_intercalate ['#'] path
  rw [told, place, toList_text]
  rw [List.singleton_append] at apart
  rw [apart, List.splitOn_intercalate '/' noStroke (by simp), List.tail_cons, List.map_map]
  exact List.map_congr_left fun step _ => String.ofList_toList

/-- The segments of a place lead to what stands there. -/
theorem resolve?_segments {path : Path} {tree v : Value} (there : path.follow? tree = some v) :
    tree.resolve? (path.map Step.segment) = some v := by
  induction path generalizing tree with
  | nil => simpa [Value.resolve?, follow?] using there
  | cons step rest ih =>
      obtain ⟨inner, first, later⟩ := Option.bind_eq_some_iff.mp there
      cases step with
      | member name =>
          cases tree with
          | dict members =>
              have held : Members.get? name members = some inner := first
              simp only [List.map_cons, Step.segment, Value.resolve?, held, Option.bind_some]
              exact ih later
          | _ => cases first
      | item index =>
          cases tree with
          | list items =>
              have held : items[index]? = some inner := first
              simp only [List.map_cons, Step.segment, Value.resolve?, digits?_toString,
                Option.bind_some, held]
              exact ih later
          | _ => cases first

/-- What a message tells of a place before its first colon leads to what stands there. -/
theorem resolve?_told {path : Path} (plain : path.Plain) {tree v : Value}
    (there : path.follow? tree = some v) (rest : String) :
    tree.resolve? (told (text path ++ ": " ++ rest)) = some v := by
  rw [told_text plain]
  exact resolve?_segments there

end Path

end Draftsman
