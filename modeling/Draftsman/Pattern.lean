/-
# Draftsman.Pattern -- regular expressions as values

A pattern is its source and the flags in effect: those it was made with, together
with those of the inline groups at the start of its source.  A document can only
hold a source, so `Pattern.render` writes the flags as a leading inline group --
unless the source already starts with one.

* `Pattern.leadingGroups` reads the groups that a source starts with;
* `Pattern.make` adds their flags to the given ones;
* `Pattern.render` is the text of a pattern in a document.
-/

namespace Draftsman

set_option autoImplicit false

/-- The flags of a pattern: case, lines, dot, layout, and the ASCII alphabet. -/
structure Flags where
  ignoreCase : Bool
  multiline : Bool
  dotAll : Bool
  verbose : Bool
  ascii : Bool
  deriving DecidableEq, Repr, Inhabited

namespace Flags

def none : Flags := ⟨false, false, false, false, false⟩

def union (a b : Flags) : Flags :=
  ⟨a.ignoreCase || b.ignoreCase, a.multiline || b.multiline, a.dotAll || b.dotAll,
    a.verbose || b.verbose, a.ascii || b.ascii⟩

/-- The flag of a letter.  Letters of other flags set none of these. -/
def ofLetter : Char → Flags
  | 'i' => { none with ignoreCase := true }
  | 'm' => { none with multiline := true }
  | 's' => { none with dotAll := true }
  | 'x' => { none with verbose := true }
  | 'a' => { none with ascii := true }
  | _ => none

def ofLetters (letters : List Char) : Flags :=
  letters.foldl (fun flags c => flags.union (ofLetter c)) none

/-- The letters of the flags that a document keeps. -/
def inlineLetters (flags : Flags) : List Char :=
  (if flags.ignoreCase then ['i'] else []) ++ (if flags.multiline then ['m'] else []) ++
    (if flags.dotAll then ['s'] else []) ++ (if flags.verbose then ['x'] else [])

def letters (flags : Flags) : List Char :=
  flags.inlineLetters ++ if flags.ascii then ['a'] else []

end Flags

/-- A pattern: its source and the flags in effect. -/
structure Pattern where
  source : String
  flags : Flags
  deriving DecidableEq, Repr, Inhabited

namespace Pattern

/-- The letters of the group that keeps a source as it is. -/
def isFlagLetter (c : Char) : Bool := ['a', 'i', 'L', 'm', 's', 'u', 'x'].contains c

/-- The flags that a group can set. -/
def isFlag (c : Char) : Bool := isFlagLetter c || c == 't'

/-- The letters of the inline group that a source starts with, and what follows it. -/
def groupOf? (isLetter : Char → Bool) : List Char → Option (List Char × List Char)
  | '(' :: '?' :: rest =>
      let letters := rest.takeWhile isLetter
      match rest.dropWhile isLetter with
      | ')' :: after => if letters.isEmpty then .none else some (letters, after)
      | _ => .none
  | _ => .none

/-- The group that a source starts with, if it keeps the source as it is. -/
def leadingGroup? (source : List Char) : Option (List Char × List Char) :=
  groupOf? isFlagLetter source

/-- The blanks that a layout pattern ignores. -/
def isLayoutBlank (c : Char) : Bool :=
  c == ' ' || (0x09 ≤ c.toNat && c.toNat ≤ 0x0d)

/-- What follows the first `stop` that is not behind a backslash. -/
def after (stop : Char) : List Char → List Char
  | [] => []
  | '\\' :: _ :: rest => after stop rest
  | c :: rest => if c = stop then rest else after stop rest

theorem after_length_le (stop : Char) (source : List Char) :
    (after stop source).length ≤ source.length := by
  fun_induction after stop source with
  | case1 => exact Nat.le_refl 0
  | case2 c rest ih => exact Nat.le_add_right_of_le (Nat.le_add_right_of_le ih)
  | case3 rest => exact Nat.le_add_right _ _
  | case4 c rest _ _ ih => exact Nat.le_add_right_of_le ih

/-- Drops what stands before the next item: comment groups, and in a layout pattern
blanks and comments up to the end of the line. -/
def skipIgnored (verbose : Bool) : List Char → List Char
  | '(' :: '?' :: '#' :: rest => skipIgnored verbose (after ')' rest)
  | c :: rest =>
      if verbose && isLayoutBlank c then skipIgnored verbose rest
      else if verbose && c == '#' then skipIgnored verbose (after '\n' rest)
      else c :: rest
  | [] => []
termination_by source => source.length
decreasing_by
  · exact Nat.lt_add_right 2 (Nat.lt_succ_of_le (after_length_le ')' rest))
  · exact Nat.lt_succ_self _
  · exact Nat.lt_succ_of_le (after_length_le '\n' rest)

theorem skipIgnored_length_le (verbose : Bool) (source : List Char) :
    (skipIgnored verbose source).length ≤ source.length := by
  fun_induction skipIgnored verbose source with
  | case1 rest ih =>
      have := after_length_le ')' rest
      simp only [List.length_cons]
      omega
  | case2 c rest _ _ ih => exact Nat.le_succ_of_le ih
  | case3 c rest _ _ _ ih => exact Nat.le_succ_of_le (Nat.le_trans ih (after_length_le '\n' rest))
  | case4 => exact Nat.le_refl _
  | case5 => exact Nat.le_refl _

/-- A group stands at the start of its source, with letters between the question mark and the
closing parenthesis. -/
theorem eq_of_groupOf? {isLetter : Char → Bool} {source letters rest : List Char}
    (found : groupOf? isLetter source = some (letters, rest)) :
    source = '(' :: '?' :: (letters ++ ')' :: rest) ∧ letters ≠ [] ∧
      ∀ c ∈ letters, isLetter c = true := by
  unfold groupOf? at found
  split at found
  · rename_i inner
    dsimp only at found
    split at found
    · rename_i tail closed
      split at found
      · cases found
      · rename_i filled
        simp only [Option.some.injEq, Prod.mk.injEq] at found
        obtain ⟨rfl, rfl⟩ := found
        refine ⟨?_, fun empty => filled (by simp [empty]), fun c held => ?_⟩
        · rw [← closed, List.takeWhile_append_dropWhile]
        · exact List.all_eq_true.mp List.all_takeWhile c held
    · cases found
  · cases found

theorem length_lt_of_groupOf? {isLetter : Char → Bool} {verbose : Bool}
    {source letters rest : List Char}
    (found : groupOf? isLetter (skipIgnored verbose source) = some (letters, rest)) :
    rest.length < source.length := by
  have shorter := congrArg List.length (eq_of_groupOf? found).1
  have := skipIgnored_length_le verbose source
  simp only [List.length_cons, List.length_append] at shorter
  omega

/-- The letters of the inline groups that a source starts with, group by group, and
what follows them.  A group that switches the layout flag on changes what is ignored
after it. -/
def leadingGroups (verbose : Bool) (source : List Char) : List (List Char) × List Char :=
  match found : groupOf? isFlag (skipIgnored verbose source) with
  | some (letters, rest) =>
      have := length_lt_of_groupOf? found
      let more := leadingGroups (verbose || letters.contains 'x') rest
      (letters :: more.1, more.2)
  | .none => ([], source)
termination_by source.length

def make (source : String) (given : Flags) : Pattern :=
  ⟨source, given.union (Flags.ofLetters (leadingGroups given.verbose source.toList).1.flatten)⟩

/-- The text of a pattern in a document: its source, after a leading group with
the flags in effect where the source does not start with a group itself. -/
def render (p : Pattern) : String :=
  let letters := p.flags.inlineLetters
  if letters.isEmpty || (leadingGroup? p.source.toList).isSome then p.source
  else String.ofList ('(' :: '?' :: letters ++ [')']) ++ p.source

end Pattern

end Draftsman
