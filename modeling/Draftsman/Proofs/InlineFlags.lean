/-
# Draftsman.Proofs.InlineFlags -- patterns that keep their flags

The groups at the start of a source set flags, and one of the flags says what is ignored between
them.  If some group asks for that one, it makes no difference to have asked for it before: not to
the groups (`leadingGroups_layout`), and not to whether the source is a pattern (`run_layout`).

So a pattern that is written with its flags in front is read back with the same flags
(`keeps_grouped`).  A source that starts with a group of its own is written as it is, and keeps the
pattern only if it asks for the given flags itself (`keeps_source`, `render_keeps_flags`); the
others are lost (`render_loses_flag`).
-/
import Draftsman.Pattern.Grammar
import Draftsman.Proofs.Steps

namespace Draftsman

set_option autoImplicit false

namespace Flags

/-! ## Flags and letters -/

variable {a b flags : Flags} {c : Char} {letters : List Char}

theorem mem_inlineLetters : c ∈ flags.inlineLetters ↔
    (c = 'i' ∧ flags.ignoreCase = true) ∨ (c = 'm' ∧ flags.multiline = true) ∨
      (c = 's' ∧ flags.dotAll = true) ∨ (c = 'x' ∧ flags.verbose = true) := by
  simp only [inlineLetters, List.mem_append, or_assoc]
  cases flags.ignoreCase <;> cases flags.multiline <;> cases flags.dotAll <;>
    cases flags.verbose <;> simp

theorem mem_inlineLetters_union :
    c ∈ (a.union b).inlineLetters ↔ c ∈ a.inlineLetters ∨ c ∈ b.inlineLetters := by
  simp only [mem_inlineLetters, union, Bool.or_eq_true]
  grind

theorem verbose_iff : flags.verbose = true ↔ 'x' ∈ flags.inlineLetters := by
  simp [mem_inlineLetters]

/-- The letters that are in effect are known one by one. -/
theorem inlineLetters_ext (same : ∀ c, c ∈ a.inlineLetters ↔ c ∈ b.inlineLetters) :
    a.inlineLetters = b.inlineLetters := by
  have i := same 'i'
  have m := same 'm'
  have s := same 's'
  have x := same 'x'
  simp only [mem_inlineLetters, Char.reduceEq, true_and, false_and, or_false, false_or] at i m s x
  simp only [inlineLetters, i, m, s, x]

def kept : List Char := ['i', 'm', 's', 'x']

theorem mem_kept (held : c ∈ flags.inlineLetters) : c ∈ kept := by
  rcases mem_inlineLetters.mp held with ⟨rfl, -⟩ | ⟨rfl, -⟩ | ⟨rfl, -⟩ | ⟨rfl, -⟩ <;> decide

theorem mem_inlineLetters_ofLetter {letter : Char} :
    c ∈ (ofLetter letter).inlineLetters ↔ c = letter ∧ c ∈ kept := by
  constructor
  · intro held
    refine ⟨?_, mem_kept held⟩
    unfold ofLetter at held
    split at held <;> simp_all [inlineLetters, none]
  · rintro ⟨rfl, listed⟩
    simp only [kept, List.mem_cons, List.not_mem_nil, or_false] at listed
    rcases listed with rfl | rfl | rfl | rfl <;> decide

theorem mem_inlineLetters_ofLetters :
    c ∈ (ofLetters letters).inlineLetters ↔ c ∈ letters ∧ c ∈ kept := by
  have grown (flags : Flags) :
      c ∈ (letters.foldl (fun flags c => flags.union (ofLetter c)) flags).inlineLetters ↔
        c ∈ flags.inlineLetters ∨ c ∈ letters ∧ c ∈ kept := by
    induction letters generalizing flags with
    | nil => simp
    | cons first rest ih =>
        rw [List.foldl_cons, ih, mem_inlineLetters_union, mem_inlineLetters_ofLetter, List.mem_cons,
          or_and_right, or_assoc]
  rw [ofLetters, grown]
  simp [mem_inlineLetters, none]

end Flags

namespace Pattern

variable {isLetter : Char → Bool} {layout : Bool} {source rest letters : List Char}

/-! ## The groups that a source starts with -/

/-- A group, from its parenthesis to its parenthesis. -/
def inlineGroup (letters : List Char) : List Char := '(' :: '?' :: letters ++ [')']

theorem inlineGroup_append (letters rest : List Char) :
    inlineGroup letters ++ rest = '(' :: '?' :: (letters ++ ')' :: rest) := by
  simp [inlineGroup]

theorem not_mem_inlineGroup (each : ∀ c ∈ letters, isFlag c = true) :
    '\\' ∉ inlineGroup letters := by
  intro held
  have flag := each '\\' (by simpa [inlineGroup] using held)
  exact absurd flag (by decide)

theorem groupOf?_group (closing : isLetter ')' = false) (filled : letters ≠ [])
    (each : ∀ c ∈ letters, isLetter c = true) (rest : List Char) :
    groupOf? isLetter (inlineGroup letters ++ rest) = some (letters, rest) := by
  have taken : (letters ++ ')' :: rest).takeWhile isLetter = letters := by
    rw [List.takeWhile_append_of_pos each, List.takeWhile_cons, closing]
    simp
  have left : (letters ++ ')' :: rest).dropWhile isLetter = ')' :: rest := by
    rw [List.dropWhile_append_of_pos each, List.dropWhile_cons, closing]
    simp
  rw [inlineGroup_append]
  simp [groupOf?, taken, left, filled]

theorem group_of_groupOf? (found : groupOf? isLetter source = some (letters, rest)) :
    source = inlineGroup letters ++ rest :=
  (eq_of_groupOf? found).1.trans (inlineGroup_append letters rest).symm

/-- A group is not ignored, whatever is. -/
theorem skipIgnored_group (filled : letters ≠ []) (each : ∀ c ∈ letters, isFlag c = true)
    (layout : Bool) (rest : List Char) :
    skipIgnored layout (inlineGroup letters ++ rest) = inlineGroup letters ++ rest := by
  obtain ⟨first, others, rfl⟩ := List.exists_cons_of_ne_nil filled
  have plain : first ≠ '#' := by
    rintro rfl
    exact absurd (each '#' List.mem_cons_self) (by decide)
  rw [inlineGroup_append]
  rw [skipIgnored]
  · simp [isLayoutBlank]
  · simp [plain]

theorem leadingGroups_of_some
    (found : groupOf? isFlag (skipIgnored layout source) = some (letters, rest)) :
    leadingGroups layout source =
      (letters :: (leadingGroups (layout || letters.contains 'x') rest).1,
        (leadingGroups (layout || letters.contains 'x') rest).2) := by
  rw [leadingGroups]
  split
  · rename_i letters' rest' found'
    obtain ⟨rfl, rfl⟩ := Prod.mk.inj (Option.some.inj (found'.symm.trans found))
    rfl
  · rename_i absent
    rw [found] at absent
    cases absent

theorem leadingGroups_of_none (absent : groupOf? isFlag (skipIgnored layout source) = .none) :
    leadingGroups layout source = ([], source) := by
  rw [leadingGroups]
  split
  · rename_i found
    rw [absent] at found
    cases found
  · rfl

/-- A comment at the start makes no difference to the groups. -/
theorem leadingGroups_comment (layout : Bool) (rest : List Char) :
    (leadingGroups layout ('(' :: '?' :: '#' :: rest)).1 =
      (leadingGroups layout (after ')' rest)).1 := by
  have skipped : skipIgnored layout ('(' :: '?' :: '#' :: rest) =
      skipIgnored layout (after ')' rest) := by rw [skipIgnored]
  cases found : groupOf? isFlag (skipIgnored layout (after ')' rest)) with
  | none => rw [leadingGroups_of_none found, leadingGroups_of_none (skipped ▸ found)]
  | some pair => rw [leadingGroups_of_some found, leadingGroups_of_some (skipped ▸ found)]

theorem leadingGroups_group (filled : letters ≠ []) (each : ∀ c ∈ letters, isFlag c = true)
    (layout : Bool) (rest : List Char) :
    leadingGroups layout (inlineGroup letters ++ rest) =
      (letters :: (leadingGroups (layout || letters.contains 'x') rest).1,
        (leadingGroups (layout || letters.contains 'x') rest).2) := by
  refine leadingGroups_of_some ?_
  rw [skipIgnored_group filled each]
  exact groupOf?_group (by decide) filled each rest

/-- Where blanks count, nothing but a comment is ignored. -/
theorem comment_or_not_skipped (source : List Char) :
    (∃ rest, source = '(' :: '?' :: '#' :: rest) ∨ skipIgnored false source = source := by
  fun_cases skipIgnored false source with
  | case1 rest => exact .inl ⟨rest, rfl⟩
  | case2 c rest _ blank => simp at blank
  | case3 c rest _ _ comment => simp at comment
  | case4 => exact .inr rfl
  | case5 => exact .inr rfl

/-- What stands before a group where blanks count is ignored where they do not. -/
theorem skipIgnored_of_group {found : List Char × List Char}
    (group : groupOf? isFlag (skipIgnored false source) = some found) :
    skipIgnored true source = skipIgnored false source := by
  fun_induction skipIgnored false source with
  | case1 rest ih =>
      rw [skipIgnored]
      exact ih group
  | case2 c rest _ blank => simp at blank
  | case3 c rest _ _ comment => simp at comment
  | case4 c rest =>
      obtain ⟨letters, rest'⟩ := found
      obtain ⟨-, filled, each⟩ := eq_of_groupOf? group
      rw [group_of_groupOf? group, skipIgnored_group filled each]
  | case5 => rw [skipIgnored]

/-- Where some group asks for the layout flag, it may as well be asked for before. -/
theorem leadingGroups_layout {source : List Char}
    (asked : 'x' ∈ (leadingGroups false source).1.flatten) :
    leadingGroups true source = leadingGroups false source := by
  cases found : groupOf? isFlag (skipIgnored false source) with
  | none =>
      rw [leadingGroups_of_none found] at asked
      cases asked
  | some group =>
      obtain ⟨letters, rest⟩ := group
      -- what stands before the first group is ignored either way
      have found' := skipIgnored_of_group found ▸ found
      rw [leadingGroups_of_some found] at asked ⊢
      rw [leadingGroups_of_some found']
      have shorter := length_lt_of_groupOf? found
      cases here : letters.contains 'x' with
      | true => rfl
      | false =>
          have elsewhere : 'x' ∉ letters := by simpa using here
          have later : leadingGroups true rest = leadingGroups false rest :=
            leadingGroups_layout (by simpa [here, elsewhere] using asked)
          rw [Bool.or_false, Bool.or_false, later]
termination_by source.length

theorem leadingGroups_congr {layout' : Bool}
    (settled : layout = layout' ∨ 'x' ∈ (leadingGroups false source).1.flatten) :
    leadingGroups layout source = leadingGroups layout' source := by
  rcases settled with rfl | asked
  · rfl
  · have same := leadingGroups_layout asked
    cases layout <;> cases layout' <;> first | rfl | exact same | exact same.symm

/-! ## Reading a source -/

/-- Characters of which none is a backslash are read one by one. -/
theorem ofSource_append {front : List Char} (ordinary : '\\' ∉ front) (rest : List Char) :
    Token.ofSource (front ++ rest) = front.map .plain ++ Token.ofSource rest := by
  induction front with
  | nil => rfl
  | cons c front ih =>
      obtain ⟨own, later⟩ := not_or.mp fun held => ordinary (List.mem_cons.mpr held)
      rw [List.cons_append, Token.ofSource, ih later]
      · rfl
      · exact fun same _ => own same.symm
      · exact fun _ _ same _ => own same.symm

/-- The letters of a group are read up to the closing parenthesis. -/
theorem takePlain_closed (closing : isLetter ')' = false) (each : ∀ c ∈ letters, isLetter c = true)
    (most : Nat) (enough : letters.length ≤ most) (tokens : List Token) :
    Token.takePlain isLetter most (letters.map .plain ++ .plain ')' :: tokens) =
      (letters, .plain ')' :: tokens) := by
  induction letters generalizing most with
  | nil => cases most <;> simp [Token.takePlain, closing]
  | cons c others ih =>
      obtain ⟨own, each⟩ := List.forall_mem_cons.mp each
      obtain ⟨most, rfl⟩ := Nat.exists_eq_add_of_lt enough
      rw [List.map_cons, List.cons_append, Token.takePlain, if_pos own, ih each _ (by simp)]

/-- What is left after a character by itself is what follows it in the source. -/
theorem upTo?_ofSource {stop : Char} {body left : List Token}
    (found : Token.upTo? stop (Token.ofSource source) = some (body, left)) :
    left = Token.ofSource (after stop source) := by
  fun_induction Token.ofSource source generalizing body with
  | case1 => cases found
  | case2 => cases found
  | case3 c rest ih =>
      rw [Token.upTo?, if_neg (by simp)] at found
      · obtain ⟨⟨inner, left⟩, later, same⟩ := Option.map_eq_some_iff.mp found
        obtain ⟨-, rfl⟩ := Prod.mk.inj same
        rw [after]
        exact ih later
      · simp
  | case4 c rest _ apart ih =>
      rw [Token.upTo?] at found
      · rw [after]
        · split at found
          · rename_i same
            obtain ⟨-, rfl⟩ := Prod.mk.inj (Option.some.inj found)
            rw [if_pos (Token.plain.inj same)]
          · rename_i differ
            rw [if_neg fun same => differ (congrArg _ same)]
            obtain ⟨⟨inner, left⟩, later, same⟩ := Option.map_eq_some_iff.mp found
            obtain ⟨-, rfl⟩ := Prod.mk.inj same
            exact ih later
        · exact apart
      · simp

namespace Scan

variable {s : Scan} {narrow wide template : Bool} {n : Nat}

/-- The state in which nothing but flags has been read. -/
def fresh (layout narrow wide template : Bool) : Scan where
  group := { kind := .whole, layout }
  narrow := narrow
  wide := wide
  template := template

theorem start_eq (given : Flags) : start given = fresh given.verbose given.ascii false false := rfl

theorem step_special (s : Scan) (tokens : List Token) :
    s.step (.plain '(') (.plain '?' :: tokens) = s.openSpecial tokens := by
  simp [step, plain, isLayoutBlank, openGroup]

theorem run_comment (n : Nat) (s : Scan) (rest : List Char) :
    run (n + 1) s (Token.ofSource ('(' :: '?' :: '#' :: rest)) =
      match Token.upTo? ')' (Token.ofSource rest) with
      | some (_, left) => run n s left
      | none => .error .malformed := by
  have front : Token.ofSource ('(' :: '?' :: '#' :: rest) =
      ['(', '?', '#'].map .plain ++ Token.ofSource rest :=
    @ofSource_append ['(', '?', '#'] (by decide) rest
  rw [front, List.map_cons, List.cons_append, run]
  simp only [List.map_cons, List.map_nil, List.cons_append, List.nil_append, step_special,
    openSpecial]
  cases Token.upTo? ')' (Token.ofSource rest) <;> rfl

theorem openSpecial_flag {first : Char} (flag : isFlag first = true) (tokens : List Token) :
    s.openSpecial (.plain first :: tokens) = s.flags (.plain first :: tokens) := by
  simp only [isFlag, isFlagLetter, List.contains_eq_mem, List.mem_cons, List.not_mem_nil, or_false,
    Bool.or_eq_true, decide_eq_true_eq, beq_iff_eq] at flag
  rcases flag with (rfl | rfl | rfl | rfl | rfl | rfl | rfl) | rfl <;> rfl

theorem run_group (filled : letters ≠ []) (each : ∀ c ∈ letters, isFlag c = true)
    (n : Nat) (layout narrow wide template : Bool) (rest : List Char) :
    run (n + 1) (fresh layout narrow wide template) (Token.ofSource (inlineGroup letters ++ rest)) =
      if mayAdd letters then
        run n (fresh (layout || letters.contains 'x') (narrow || letters.contains 'a')
          (wide || letters.contains 'u') (template || letters.contains 't')) (Token.ofSource rest)
      else .error .malformed := by
  obtain ⟨first, others, rfl⟩ := List.exists_cons_of_ne_nil filled
  have read := takePlain_closed (by decide) each
    ((first :: others).map Token.plain ++ Token.plain ')' :: Token.ofSource rest).length
    (by simp) (Token.ofSource rest)
  have front : (inlineGroup (first :: others)).map Token.plain ++ Token.ofSource rest =
      .plain '(' :: .plain '?' ::
        ((first :: others).map Token.plain ++ Token.plain ')' :: Token.ofSource rest) := by
    simp [inlineGroup]
  rw [ofSource_append (not_mem_inlineGroup each), front, run, step_special]
  rw [List.map_cons, List.cons_append] at read ⊢
  rw [openSpecial_flag (each first List.mem_cons_self), flags, read]
  dsimp only
  cases mayAdd (first :: others) <;> rfl

/-- Where some group asks for the layout flag, a source is read as if it had been asked for
before. -/
theorem run_layout (n : Nat) {source : List Char}
    (asked : 'x' ∈ (leadingGroups false source).1.flatten) (narrow wide template : Bool) :
    run n (fresh false narrow wide template) (Token.ofSource source) =
      run n (fresh true narrow wide template) (Token.ofSource source) := by
  induction n generalizing source narrow wide template with
  | zero =>
      cases Token.ofSource source <;> rfl
  | succ n ih =>
      -- a source that asks for a flag starts with a comment or with a group, each read in one step
      rcases comment_or_not_skipped source with ⟨rest, rfl⟩ | same
      · rw [leadingGroups_comment] at asked
        rw [run_comment, run_comment]
        cases found : Token.upTo? ')' (Token.ofSource rest) with
        | none => rfl
        | some pair =>
            obtain ⟨body, left⟩ := pair
            obtain rfl := upTo?_ofSource found
            exact ih asked narrow wide template
      · cases found : groupOf? isFlag source with
        | none =>
            rw [leadingGroups_of_none (same.symm ▸ found)] at asked
            cases asked
        | some pair =>
            obtain ⟨letters, rest⟩ := pair
            obtain ⟨-, filled, each⟩ := eq_of_groupOf? found
            obtain rfl := group_of_groupOf? found
            rw [run_group filled each, run_group filled each]
            cases here : letters.contains 'x' with
            | true => rfl
            | false =>
                have elsewhere : 'x' ∉ letters := by simpa using here
                rw [leadingGroups_group filled each, here] at asked
                have asked' : 'x' ∈ (leadingGroups false rest).1.flatten := by
                  simpa [elsewhere] using asked
                simp only [Bool.or_false, ih asked']

theorem run_congr {source : List Char} {layout layout' : Bool}
    (settled : layout = layout' ∨ 'x' ∈ (leadingGroups false source).1.flatten) (n : Nat) :
    run n (fresh layout narrow wide template) (Token.ofSource source) =
      run n (fresh layout' narrow wide template) (Token.ofSource source) := by
  rcases settled with rfl | asked
  · rfl
  · have same := run_layout n asked narrow wide template
    cases layout <;> cases layout' <;> first | rfl | exact same | exact same.symm

/-- More fuel does no harm. -/
theorem run_mono {n m : Nat} (enough : n ≤ m) {s : Scan} {tokens : List Token}
    (done : run n s tokens = .ok ()) : run m s tokens = .ok () := by
  induction n generalizing m s tokens with
  | zero =>
      cases tokens with
      | nil => cases m <;> exact done
      | cons t rest => cases done
  | succ n ih =>
      obtain ⟨m, rfl⟩ := Nat.exists_eq_add_of_lt enough
      cases tokens with
      | nil => exact done
      | cons t rest =>
          rw [run] at done ⊢
          obtain ⟨⟨next, left⟩, stepped, later⟩ := bind_eq_ok.mp done
          exact bind_eq_ok.mpr ⟨_, stepped, ih (by omega) later⟩

end Scan

/-! ## Patterns and their texts -/

variable {text : String} {given : Flags} {p : Pattern}

theorem compile?_eq_ok : compile? text given = .ok p ↔
    Scan.run (Token.ofSource text.toList).length (Scan.start given) (Token.ofSource text.toList) =
      .ok () ∧ make text given = p := by
  rw [compile?, map_eq_ok]
  constructor
  · rintro ⟨_, read, same⟩
    exact ⟨read, same⟩
  · rintro ⟨read, same⟩
    exact ⟨(), read, same⟩

/-- The letters in effect are those that are given and those of the groups. -/
theorem mem_inlineLetters_make {c : Char} : c ∈ (make text given).flags.inlineLetters ↔
    c ∈ given.inlineLetters ∨
      c ∈ (leadingGroups given.verbose text.toList).1.flatten ∧ c ∈ Flags.kept := by
  rw [make, Flags.mem_inlineLetters_union, Flags.mem_inlineLetters_ofLetters]

/-- Whether blanks count is known beforehand, unless the source asks for it. -/
theorem verbose_make : (make text given).flags.verbose = given.verbose ∨
    'x' ∈ (leadingGroups false text.toList).1.flatten := by
  cases plain : given.verbose with
  | true => exact .inl (by simp [make, Flags.union, plain])
  | false =>
      cases set : (make text given).flags.verbose with
      | false => exact .inl rfl
      | true =>
          rcases mem_inlineLetters_make.mp (Flags.verbose_iff.mp set) with own | ⟨asked, -⟩
          · rw [Flags.verbose_iff.mpr own] at plain
            cases plain
          · exact .inr (plain ▸ asked)

theorem isFlag_of_kept {c : Char} (listed : c ∈ Flags.kept) : isFlag c = true := by
  simp only [Flags.kept, List.mem_cons, List.not_mem_nil, or_false] at listed
  rcases listed with rfl | rfl | rfl | rfl <;> decide

/-- A text keeps a pattern: read without flags it has the flags of the pattern, each of which is
asked for by a group at its start, and `rest` follows these groups. -/
structure Keeps (text : String) (p : Pattern) (rest : List Char) : Prop where
  recompiled : ∃ q, compile? text .none = .ok q ∧ q.flags.inlineLetters = p.flags.inlineLetters
  asked : ∀ c ∈ p.flags.inlineLetters, ∃ group ∈ (leadingGroups false text.toList).1, c ∈ group
  stripped : (leadingGroups false text.toList).2 = rest

/-- What the groups at the start of a text have to be, if it is read at all. -/
theorem keeps_of_groups {rest : List Char}
    (read : Scan.run (Token.ofSource text.toList).length (Scan.start .none)
      (Token.ofSource text.toList) = .ok ())
    (asked : ∀ c, c ∈ p.flags.inlineLetters ↔
      c ∈ (leadingGroups false text.toList).1.flatten ∧ c ∈ Flags.kept)
    (stripped : (leadingGroups false text.toList).2 = rest) : Keeps text p rest where
  recompiled := by
    refine ⟨make text .none, compile?_eq_ok.mpr ⟨read, rfl⟩, Flags.inlineLetters_ext fun c => ?_⟩
    rw [mem_inlineLetters_make, asked]
    simp [Flags.mem_inlineLetters, Flags.none]
  asked c held := List.mem_flatten.mp ((asked c).mp held).1
  stripped := stripped

/-- A source that asks for all the flags that are given keeps the pattern by itself. -/
theorem keeps_source (alphabet : given.ascii = false) (made : compile? text given = .ok p)
    (repeated : ∀ c ∈ given.inlineLetters, c ∈ (leadingGroups false text.toList).1.flatten) :
    Keeps text p (leadingGroups given.verbose text.toList).2 := by
  obtain ⟨read, rfl⟩ := compile?_eq_ok.mp made
  have settled : given.verbose = false ∨ 'x' ∈ (leadingGroups false text.toList).1.flatten := by
    cases set : given.verbose with
    | false => exact .inl rfl
    | true => exact .inr (repeated 'x' (Flags.verbose_iff.mp set))
  have groups := leadingGroups_congr settled
  refine keeps_of_groups ?_ (fun c => ?_) (by rw [groups])
  · rw [Scan.start_eq, alphabet] at read
    exact (Scan.run_congr settled _).symm.trans read
  · rw [mem_inlineLetters_make, groups]
    refine ⟨?_, .inr⟩
    rintro (own | asked)
    · exact ⟨repeated c own, Flags.mem_kept own⟩
    · exact asked

/-- A group with the flags of a pattern in front of its source keeps the pattern. -/
theorem keeps_grouped {front : String} (alphabet : given.ascii = false)
    (made : compile? text given = .ok p) (filled : p.flags.inlineLetters ≠ [])
    (grouped : front.toList = inlineGroup p.flags.inlineLetters ++ text.toList) :
    Keeps front p (leadingGroups given.verbose text.toList).2 := by
  obtain ⟨read, rfl⟩ := compile?_eq_ok.mp made
  set letters := (make text given).flags.inlineLetters with own
  have each : ∀ c ∈ letters, isFlag c = true := fun c held => isFlag_of_kept (Flags.mem_kept held)
  have layout : letters.contains 'x' = (make text given).flags.verbose := by
    rw [Bool.eq_iff_iff, Flags.verbose_iff, List.contains_iff_mem]
  have absent {c : Char} (other : c ∉ Flags.kept) : letters.contains c = false := by
    rw [← Bool.not_eq_true, List.contains_iff_mem]
    exact fun held => other (Flags.mem_kept held)
  have groups : leadingGroups false front.toList =
      (letters :: (leadingGroups given.verbose text.toList).1,
        (leadingGroups given.verbose text.toList).2) := by
    rw [grouped, leadingGroups_group filled each, layout, Bool.false_or,
      leadingGroups_congr verbose_make]
  refine keeps_of_groups ?_ (fun c => ?_) (by rw [groups])
  · -- the group takes one step, which leaves more fuel than the source needs
    have long : (Token.ofSource front.toList).length =
        (letters.length + 2 + (Token.ofSource text.toList).length) + 1 := by
      rw [grouped, ofSource_append (not_mem_inlineGroup each)]
      simp [inlineGroup]
      omega
    have added : Scan.mayAdd letters = true := by
      simp only [Scan.mayAdd, absent (by decide : 'L' ∉ Flags.kept),
        absent (by decide : 'a' ∉ Flags.kept)]
      rfl
    rw [Scan.start_eq, alphabet] at read
    rw [long, Scan.start_eq, grouped, Scan.run_group filled each, if_pos added, layout,
      absent (by decide : 'a' ∉ Flags.kept), absent (by decide : 'u' ∉ Flags.kept),
      absent (by decide : 't' ∉ Flags.kept)]
    exact (Scan.run_congr verbose_make _).trans (Scan.run_mono (by omega) read)
  · rw [groups, List.flatten_cons, List.mem_append]
    constructor
    · exact fun held => ⟨.inl held, Flags.mem_kept held⟩
    · rintro ⟨held | asked, listed⟩
      · exact held
      · exact mem_inlineLetters_make.mpr (.inr ⟨asked, listed⟩)

/-- The text of a pattern in a document keeps the pattern exactly if its source, where it starts
with a group, asks there for all the flags that are given. -/
theorem render_keeps_flags (alphabet : given.ascii = false) (made : compile? text given = .ok p) :
    Keeps p.render p (leadingGroups given.verbose text.toList).2 ↔
      ((leadingGroup? text.toList).isSome → ∀ c ∈ given.inlineLetters,
        c ∈ (leadingGroups false text.toList).1.flatten) := by
  have built := (compile?_eq_ok.mp made).2
  have same : p.source = text := by
    rw [← built]
    rfl
  have inEffect (c : Char) (held : c ∈ given.inlineLetters) : c ∈ p.flags.inlineLetters :=
    built ▸ mem_inlineLetters_make.mpr (.inl held)
  by_cases own : (leadingGroup? text.toList).isSome
  · have written : p.render = text := by simp [render, same, own]
    rw [written]
    constructor
    · intro keeps _ c held
      exact List.mem_flatten.mpr (keeps.asked c (inEffect c held))
    · exact fun repeated => keeps_source alphabet made (repeated own)
  · refine ⟨fun _ found => absurd found own, fun _ => ?_⟩
    by_cases empty : p.flags.inlineLetters = []
    · have written : p.render = text := by simp [render, same, empty]
      rw [written]
      refine keeps_source alphabet made fun c held => ?_
      rw [empty] at inEffect
      exact absurd (inEffect c held) List.not_mem_nil
    · exact keeps_grouped alphabet made empty (by simp [render, same, own, empty, inlineGroup])

/-- One that asks for its layout after a comment, made with another flag. -/
theorem render_keeps_flags_comment :
    let given : Flags := { Flags.none with ignoreCase := true }
    let p := make "(?#year)(?x) [0-9]+ " given
    compile? "(?#year)(?x) [0-9]+ " given = .ok p ∧
      p.render = "(?ix)(?#year)(?x) [0-9]+ " ∧ Keeps p.render p " [0-9]+ ".toList := by
  have made : compile? "(?#year)(?x) [0-9]+ " { Flags.none with ignoreCase := true } =
      .ok (make "(?#year)(?x) [0-9]+ " { Flags.none with ignoreCase := true }) := by
    decide +kernel
  have rest : (leadingGroups false "(?#year)(?x) [0-9]+ ".toList).2 = " [0-9]+ ".toList := by
    decide +kernel
  have keeps := (render_keeps_flags rfl made).mpr (fun own => absurd own (by decide +kernel))
  exact ⟨made, by decide +kernel, rest ▸ keeps⟩

/-- A source that starts with a group of its own is written as it is, and the flag that only its
maker gave is lost. -/
theorem render_loses_flag : ∃ p q,
    compile? "(?m)^a$" { Flags.none with ignoreCase := true } = .ok p ∧
      'i' ∈ p.flags.inlineLetters ∧ p.render = "(?m)^a$" ∧
      compile? p.render .none = .ok q ∧ 'i' ∉ q.flags.inlineLetters ∧
      ∀ group ∈ (leadingGroups false p.render.toList).1, 'i' ∉ group := by
  refine ⟨make "(?m)^a$" { Flags.none with ignoreCase := true }, make "(?m)^a$" .none, ?_⟩
  decide +kernel

end Pattern

end Draftsman
