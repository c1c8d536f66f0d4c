/-
# Draftsman.Text.Likeness -- which texts are meant by one that is misspelt

Two texts are alike by the characters that they have in common, in order.  The
longest stretch that both contain counts first, then the longest ones to the left of
it in both, and to the right of it; of stretches of one length the leftmost counts.

* `common` is that number of characters;
* `closest` gives the texts that are most like another, if they are like it at all.
-/

namespace Draftsman.Text

set_option autoImplicit false

def commonStart : List Char → List Char → Nat
  | c :: rest, d :: others => if c = d then commonStart rest others + 1 else 0
  | _, _ => 0

/-- A stretch that two texts have in common: where it starts in each, and its length. -/
structure Stretch where
  left : Nat
  right : Nat
  size : Nat
  deriving DecidableEq, Repr

/-- The stretches that start at each pair of places, by places of the first text. -/
def stretches (a b : List Char) : List Stretch :=
  (List.range a.length).flatMap fun i =>
    (List.range b.length).map fun j => ⟨i, j, commonStart (a.drop i) (b.drop j)⟩

def longer (best next : Stretch) : Stretch := if best.size < next.size then next else best

/-- The longest stretch that two texts have in common, the first of its length. -/
def longest (a b : List Char) : Stretch := (stretches a b).foldl longer ⟨0, 0, 0⟩

/-- A stretch that is not empty starts within the first text. -/
theorem longest_left_lt {a b : List Char} (found : (longest a b).size ≠ 0) :
    (longest a b).left < a.length := by
  have within (others : List Stretch) (best : Stretch)
      (inside : ∀ s ∈ others, s.left < a.length) (start : best.size ≠ 0 → best.left < a.length) :
      (others.foldl longer best).size ≠ 0 → (others.foldl longer best).left < a.length := by
    induction others generalizing best with
    | nil => exact start
    | cons next rest ih =>
        refine ih (longer best next) (fun s held => inside s (List.mem_cons_of_mem _ held)) ?_
        unfold longer
        split
        · exact fun _ => inside next List.mem_cons_self
        · exact start
  refine within (stretches a b) ⟨0, 0, 0⟩ ?_ (fun empty => absurd rfl empty) found
  intro s held
  obtain ⟨i, place, inner⟩ := List.mem_flatMap.1 held
  obtain ⟨j, _, rfl⟩ := List.mem_map.1 inner
  exact List.mem_range.1 place

/-- The number of characters that two texts have in common. -/
def common (a b : List Char) : Nat :=
  match held : longest a b with
  | ⟨_, _, 0⟩ => 0
  | ⟨left, right, size + 1⟩ =>
      have within : left < a.length := by
        simpa [held] using longest_left_lt (show (longest a b).size ≠ 0 by simp [held])
      size + 1 + common (a.take left) (b.take right) +
        common (a.drop (left + size + 1)) (b.drop (right + size + 1))
termination_by a.length
decreasing_by
  · simp only [List.length_take]; omega
  · simp only [List.length_drop]; omega

/-- How like a text is to another: the characters in common, and those of both. -/
structure Likeness where
  text : String
  common : Nat
  total : Nat
  deriving DecidableEq, Repr

namespace Likeness

def of (word text : String) : Likeness :=
  ⟨text, Text.common text.toList word.toList, text.length + word.length⟩

/-- Whether three fifths of all characters are in common. -/
def isClose (l : Likeness) : Bool := 3 * l.total ≤ 10 * l.common

/-- Whether a text comes before another: it is more like the word, or as much and
later in the alphabet. -/
def before (l k : Likeness) : Bool :=
  if l.common * k.total = k.common * l.total then k.text < l.text
  else k.common * l.total < l.common * k.total

end Likeness

/-- The texts that are close to a word, the closest first, and `most` of them at
most. -/
def closest (most : Nat) (word : String) (texts : List String) : List String :=
  let near := (texts.map (Likeness.of word)).filter Likeness.isClose
  ((near.mergeSort fun l k => !k.before l).take most).map Likeness.text

end Draftsman.Text
