/-
# Draftsman.Pattern.Grammar -- which sources are patterns

A source is read from left to right with the groups that are open on a stack.
Nothing is built from it but what the rules ask for: the names and numbers of
groups, and the least and greatest number of characters that each part matches,
because what looks behind has to know how far.

* `Width` is that pair of numbers;
* `Scan.step` reads one unit and what belongs to it;
* `Pattern.check` reads a whole source, `Pattern.compile?` one that is made with flags.
-/
import Draftsman.Pattern.Token
import Draftsman.Number.Numeral
import Draftsman.Text.Identifier

namespace Draftsman.Pattern

set_option autoImplicit false

/-- How many characters a part of a pattern matches: at least and, unless there is no
bound, at most. -/
structure Width where
  least : Nat
  most? : Option Nat
  deriving DecidableEq, Repr

namespace Width

def exactly (n : Nat) : Width := ⟨n, some n⟩

def append (a b : Width) : Width :=
  ⟨a.least + b.least, a.most?.bind fun n => b.most?.map fun m => n + m⟩

def either (a b : Width) : Width :=
  ⟨min a.least b.least, a.most?.bind fun n => b.most?.map fun m => max n m⟩

def optional (a : Width) : Width := ⟨0, a.most?⟩

def repeated (a : Width) (least : Nat) (most? : Option Nat) : Width :=
  ⟨a.least * least,
    if most? = some 0 ∨ a.most? = some 0 then some 0
    else a.most?.bind fun n => most?.map fun m => n * m⟩

/-- The greatest distance that can be looked behind. -/
def farthest : Nat := twoTo 32 - 1

/-- Whether a part matches one number of characters only, and not too many. -/
def isFixed (a : Width) : Bool := a.most? == some a.least && a.least ≤ farthest

end Width

/-- What the last item of a sequence is, as far as repeating it goes. -/
inductive ItemKind where
  /-- A place, which cannot be repeated. -/
  | anchor
  /-- A repetition, which cannot be repeated again. -/
  | repetition
  | other
  deriving DecidableEq, Repr

structure Item where
  kind : ItemKind
  width : Width
  deriving Repr

inductive GroupKind where
  /-- The whole source. -/
  | whole
  | capture (index : Nat)
  | plain
  | ahead
  /-- It looks behind; the outermost such group sets the limit for references. -/
  | behind (outermost : Bool)
  /-- It depends on another group; the second half comes after a bar. -/
  | condition (second : Bool)
  deriving DecidableEq, Repr

/-- An open group: what it is for, whether blanks count in it, the width of its
earlier alternatives, and the present one as its last item and the width of the
items before that. -/
structure Group where
  kind : GroupKind
  layout : Bool
  earlier? : Option Width := none
  before : Width := .exactly 0
  last? : Option Item := none
  deriving Repr

namespace Group

def width (g : Group) : Width :=
  match g.last? with
  | some item => g.before.append item.width
  | none => g.before

def add (g : Group) (item : Item) : Group := { g with before := g.width, last? := some item }

def total (g : Group) : Width :=
  match g.earlier? with
  | some w => w.either g.width
  | none => if g.kind = .condition false then g.width.optional else g.width

def alternative (g : Group) : Group :=
  { g with
    earlier? := some (match g.earlier? with
      | some w => w.either g.width
      | none => g.width)
    before := .exactly 0
    last? := none }

end Group

/-- How far the reading has come. -/
structure Scan where
  /-- The innermost open group. -/
  group : Group
  /-- The groups around it, from the inside out. -/
  outer : List Group := []
  /-- The number of groups so far, the whole source included. -/
  count : Nat := 1
  /-- The names of groups. -/
  names : List (List Char × Nat) := []
  /-- The groups that are closed. -/
  closed : List (Nat × Width) := []
  /-- Inside what looks behind, only groups before this one can be referred to. -/
  limit? : Option Nat := none
  /-- The groups that conditions name by number. -/
  awaited : List Nat := []
  /-- Whether each of the two alphabets has been asked for. -/
  narrow : Bool := false
  wide : Bool := false
  /-- Whether something looks behind without knowing how far. -/
  unevenBehind : Bool := false
  /-- Whether the source is to be matched without trying again, and whether something is
  repeated, which needs that. -/
  template : Bool := false
  repeats : Bool := false
  deriving Repr

/-- One step of the reading: what follows it, and the units that are left. -/
abbrev Scan.Step := Except Defect (Scan × List Token)

namespace Scan

def add (s : Scan) (kind : ItemKind) (width : Width) : Scan :=
  { s with group := s.group.add ⟨kind, width⟩ }

def addOne (s : Scan) : Scan := s.add .other (.exactly 1)

def push (s : Scan) (kind : GroupKind) (layout : Bool) : Scan :=
  { s with group := { kind, layout }, outer := s.group :: s.outer }

/-- Whether a group may be referred to here. -/
def reachable (s : Scan) (index : Nat) : Bool :=
  match s.limit? with
  | some limit => (s.closed.lookup index).isSome && index < limit
  | none => true

def refer (s : Scan) (index : Nat) (rest : List Token) : Step :=
  match s.closed.lookup index with
  | some width =>
      if s.reachable index then .ok (s.add .other width, rest) else .error .malformed
  | none => .error .malformed

/-! ## Escapes -/

/-- Whether a letter behind a backslash stands for a place. -/
def isPlace (c : Char) : Bool := ['A', 'b', 'B', 'Z'].contains c

/-- A number behind a backslash: a character by three octal digits, or a reference
by one or two digits. -/
def number (s : Scan) (c : Char) (rest : List Token) : Step :=
  match rest with
  | .plain d :: more =>
      if d.isDigit then
        match more with
        | .plain e :: after =>
            if Text.isOctal c && Text.isOctal d && Text.isOctal e then
              if Text.numberOf 8 [c, d, e] ≤ octalLimit then .ok (s.addOne, after)
              else .error .malformed
            else s.refer (Text.numberOf 10 [c, d]) more
        | _ => s.refer (Text.numberOf 10 [c, d]) more
      else s.refer (Text.numberOf 10 [c]) rest
  | _ => s.refer (Text.numberOf 10 [c]) rest

def escape (s : Scan) (c : Char) (rest : List Token) : Step :=
  if isPlace c then .ok (s.add .anchor (.exactly 0), rest)
  else if c = '0' then .ok (s.addOne, (Token.takePlain Text.isOctal 2 rest).2)
  else if c.isDigit then s.number c rest
  else do
    let (_, after) ← Escape.read c rest
    pure (s.addOne, after)

/-! ## Repetitions -/

/-- The number of copies from which on there are too many. -/
def repeatLimit : Nat := twoTo 32 - 1

/-- A bound of a repetition; no digits leave it open. -/
def bound (digits : List Char) : Except Defect (Option Nat) :=
  if digits.isEmpty then .ok none
  else if Numeral.digitLimit < digits.length then .error (.tooManyDigits digits.length)
  else
    let n := Text.numberOf 10 digits
    if n < repeatLimit then .ok (some n) else .error .tooManyRepeats

/-- The digits of the bounds between braces and what follows the closing brace.
Anything else between them makes the opening brace an ordinary character. -/
def braces? (rest : List Token) : Option (List Char × List Char × List Token) :=
  if rest.head? = some (.plain '\x7d') then none
  else
    let (low, afterLow) := Token.takePlain Char.isDigit rest.length rest
    let (high, afterHigh) := match afterLow with
      | .plain ',' :: more => Token.takePlain Char.isDigit more.length more
      | _ => (low, afterLow)
    match afterHigh with
    | .plain '\x7d' :: after => some (low, high, after)
    | _ => none

/-- Repeats the last item.  A question mark or a plus after the bounds belongs to
them. -/
def repeatLast (s : Scan) (least : Nat) (most? : Option Nat) (rest : List Token) : Step :=
  match s.group.last? with
  | some ⟨.other, width⟩ =>
      let after := match rest with
        | .plain c :: more => if c = '?' ∨ c = '+' then more else rest
        | _ => rest
      let repeated : Item := ⟨.repetition, width.repeated least most?⟩
      .ok ({ s with group := { s.group with last? := some repeated }, repeats := true }, after)
  | _ => .error .malformed

/-- A repetition whose bounds stand between braces.  A dangling backslash behind
them is noticed before the bounds are looked at. -/
def repeatBraces (s : Scan) (rest : List Token) : Step :=
  match braces? rest with
  | none => .ok (s.addOne, rest)
  | some (_, _, .dangling :: _) => .error .malformed
  | some (low, high, after) => do
      let least? ← bound low
      let most? ← bound high
      let least := least?.getD 0
      if most?.any (· < least) then .error .malformed
      s.repeatLast least most? after

/-! ## Groups -/

def isAlphabet (c : Char) : Bool := c == 'a' || c == 'L' || c == 'u'

/-- Whether a group may switch some flags on: the alphabet of bytes is not for
texts, and there can be one other at most. -/
def mayAdd (letters : List Char) : Bool :=
  !letters.contains 'L' && !(letters.contains 'a' && letters.contains 'u')

/-- Flags for the whole source, which have to stand at its start. -/
def setFlags (s : Scan) (letters : List Char) (rest : List Token) : Step :=
  if s.group.kind = .whole ∧ s.group.earlier?.isNone ∧ s.group.last?.isNone then
    .ok ({ s with
      group := { s.group with layout := s.group.layout || letters.contains 'x' }
      narrow := s.narrow || letters.contains 'a'
      wide := s.wide || letters.contains 'u'
      template := s.template || letters.contains 't' }, rest)
  else .error .malformed

def flagGroup (s : Scan) (on off : List Char) (rest : List Token) : Step :=
  if on.contains 't' || off.contains 't' || off.any isAlphabet || on.any off.contains then
    .error .malformed
  else
    let layout := (s.group.layout || on.contains 'x') && !off.contains 'x'
    .ok (s.push .plain layout, rest)

def flags (s : Scan) (tokens : List Token) : Step :=
  let (on, afterOn) := Token.takePlain isFlag tokens.length tokens
  if !mayAdd on then .error .malformed
  else match afterOn with
    | .plain ')' :: rest => if on.isEmpty then .error .malformed else s.setFlags on rest
    | .plain ':' :: rest => if on.isEmpty then .error .malformed else s.flagGroup on [] rest
    | .plain '-' :: more =>
        let (off, afterOff) := Token.takePlain isFlag more.length more
        match afterOff with
        | .plain ':' :: rest => if off.isEmpty then .error .malformed else s.flagGroup on off rest
        | _ => .error .malformed
    | _ => .error .malformed

def capture (s : Scan) (name? : Option (List Char)) (rest : List Token) : Step :=
  let opened := { s.push (.capture s.count) s.group.layout with count := s.count + 1 }
  match name? with
  | none => .ok (opened, rest)
  | some name =>
      if (s.names.lookup name).isSome then .error .malformed
      else .ok ({ opened with names := (name, s.count) :: s.names }, rest)

def name (stop : Char) (tokens : List Token) : Except Defect (List Char × List Token) :=
  match Token.upTo? stop tokens with
  | none => .error .malformed
  | some (body, rest) =>
      match Token.text? body with
      | some text => if Text.isIdentifier text then .ok (text, rest) else .error .malformed
      | none => .error .malformed

def referName (s : Scan) (tokens : List Token) : Step := do
  let (text, rest) ← name ')' tokens
  match s.names.lookup text with
  | some index => s.refer index rest
  | none => .error .malformed

def lookBehind (s : Scan) (rest : List Token) : Step :=
  .ok ({ s.push (.behind s.limit?.isNone) s.group.layout with
    limit? := some (s.limit?.getD s.count) }, rest)

/-- The number from which on no group can be named. -/
def groupLimit : Nat := twoTo 30 - 1

/-- The group that a condition names, and whether it does so by number. -/
def conditionIndex? (s : Scan) (text : List Char) : Option (Nat × Bool) :=
  if Text.isIdentifier text then (s.names.lookup text).map fun index => (index, false)
  else match Numeral.read (String.ofList text) with
    | .ok n => if 0 < n ∧ n < groupLimit then some (n.toNat, true) else none
    | .error _ => none

def condition (s : Scan) (tokens : List Token) : Step :=
  match (Token.upTo? ')' tokens).bind fun r => (Token.text? r.1).map fun text => (text, r.2) with
  | none => .error .malformed
  | some (text, rest) =>
      match s.conditionIndex? text with
      | none => .error .malformed
      | some (index, byNumber) =>
          if s.reachable index then
            let opened := s.push (.condition false) s.group.layout
            .ok ({ opened with
              awaited := if byNumber then index :: s.awaited else s.awaited }, rest)
          else .error .malformed

def openSpecial (s : Scan) (tokens : List Token) : Step :=
  match tokens with
  | .plain 'P' :: .plain '<' :: rest => do
      let (text, after) ← name '>' rest
      s.capture (some text) after
  | .plain 'P' :: .plain '=' :: rest => s.referName rest
  | .plain ':' :: rest | .plain '>' :: rest => .ok (s.push .plain s.group.layout, rest)
  | .plain '=' :: rest | .plain '!' :: rest => .ok (s.push .ahead s.group.layout, rest)
  | .plain '<' :: .plain '=' :: rest | .plain '<' :: .plain '!' :: rest => s.lookBehind rest
  | .plain '(' :: rest => s.condition rest
  | .plain '#' :: rest =>
      match Token.upTo? ')' rest with
      | some (_, after) => .ok (s, after)
      | none => .error .malformed
  | _ => s.flags tokens

def openGroup (s : Scan) (tokens : List Token) : Step :=
  match tokens with
  | .plain '?' :: rest => s.openSpecial rest
  | _ => s.capture none tokens

/-- A bar: another alternative, or the second half of a condition. -/
def bar (s : Scan) (rest : List Token) : Step :=
  match s.group.kind with
  | .condition true => .error .malformed
  | .condition false =>
      .ok ({ s with group := { s.group.alternative with kind := .condition true } }, rest)
  | _ => .ok ({ s with group := s.group.alternative }, rest)

/-- What a source that asks for two alphabets is refused for. -/
def oneAlphabet (s : Scan) : Except Defect Unit :=
  if s.narrow && s.wide then .error .twoAlphabets else .ok ()

def close (s : Scan) (rest : List Token) : Step :=
  match s.outer with
  | [] => do
      s.oneAlphabet
      .error .malformed
  | around :: outer =>
      let width := s.group.total
      let left := { s with group := around, outer }
      match s.group.kind with
      | .capture index => .ok ({ left.add .other width with closed := (index, width) :: s.closed }, rest)
      | .ahead => .ok (left.add .other (.exactly 0), rest)
      | .behind outermost =>
          .ok ({ left.add .other (.exactly 0) with
            limit? := if outermost then none else s.limit?
            unevenBehind := s.unevenBehind || !width.isFixed }, rest)
      | _ => .ok (left.add .other width, rest)

/-! ## A whole source -/

def skipLine : List Token → Except Defect (List Token)
  | [] => .ok []
  | .dangling :: _ => .error .malformed
  | t :: rest => if t = .plain '\n' then .ok rest else skipLine rest

/-- Reads a character by itself and what belongs to it. -/
def plain (s : Scan) (c : Char) (rest : List Token) : Step :=
  if c = '|' then s.bar rest
  else if c = ')' then s.close rest
  else if s.group.layout && isLayoutBlank c then .ok (s, rest)
  else if s.group.layout && c == '#' then (skipLine rest).map fun after => (s, after)
  else if c = '[' then (CharacterSet.read rest).map fun after => (s.addOne, after)
  else if c = '(' then s.openGroup rest
  else if c = '^' ∨ c = '$' then .ok (s.add .anchor (.exactly 0), rest)
  else if c = '?' then s.repeatLast 0 (some 1) rest
  else if c = '*' then s.repeatLast 0 none rest
  else if c = '+' then s.repeatLast 1 none rest
  else if c = '\x7b' then s.repeatBraces rest
  else .ok (s.addOne, rest)

def step (s : Scan) (t : Token) (rest : List Token) : Step :=
  match t with
  | .dangling => .error .malformed
  | .escaped c => s.escape c rest
  | .plain c => s.plain c rest

/-- What has to hold at the end of a source. -/
def finish (s : Scan) : Except Defect Unit :=
  if s.outer.isEmpty then do
    s.oneAlphabet
    if s.awaited.any (s.count ≤ ·) || s.unevenBehind || (s.template && s.repeats) then
      .error .malformed
  else .error .malformed

/-- Reads all units.  Every step takes one at least, so their number is enough
fuel. -/
def run : Nat → Scan → List Token → Except Defect Unit
  | _, s, [] => s.finish
  | 0, _, _ => .error .malformed
  | fuel + 1, s, t :: rest => do
      let (next, left) ← s.step t rest
      run fuel next left

end Scan

/-- The state before the first unit, for a source that is made with some flags. -/
def Scan.start (given : Flags) : Scan where
  group := { kind := .whole, layout := given.verbose }
  narrow := given.ascii

def compile? (source : String) (given : Flags) : Except Defect Pattern :=
  let tokens := Token.ofSource source.toList
  (Scan.run tokens.length (Scan.start given) tokens).map fun _ => make source given

def check (source : String) : Except Defect Unit :=
  let tokens := Token.ofSource source.toList
  Scan.run tokens.length { group := { kind := .whole, layout := false } } tokens

theorem check_eq (source : String) : check source = (compile? source .none).map fun _ => () := by
  simp only [check, compile?, Scan.start, Flags.none]
  generalize Scan.run _ _ _ = read
  cases read <;> rfl

end Draftsman.Pattern
