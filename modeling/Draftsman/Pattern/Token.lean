/-
# Draftsman.Pattern.Token -- the units of a pattern's source

A source is read unit by unit: a character by itself, or one behind a backslash.
What a backslash means depends on what follows and on whether the unit stands
inside a set between brackets; both readings are here, with the set itself.

* `Token.ofSource` cuts a source into units;
* `Defect` says why a source is no pattern;
* `Escape.read` reads the escapes that mean the same everywhere;
* `CharacterSet.read` reads a set up to its closing bracket.
-/
import Draftsman.Number.Numeral
import Draftsman.Pattern
import Draftsman.Text.CharacterName

namespace Draftsman.Pattern

set_option autoImplicit false

inductive Defect where
  /-- It breaks the grammar. -/
  | malformed
  /-- It asks for more repetitions than can be counted. -/
  | tooManyRepeats
  /-- A number of repetitions has too many digits to be read. -/
  | tooManyDigits (digits : Nat)
  /-- It asks for two alphabets at once. -/
  | twoAlphabets
  deriving DecidableEq, Repr

/-- The wording of a defect; a broken grammar has none here. -/
def Defect.message : Defect → String
  | malformed => ""
  | tooManyRepeats => "the repetition number is too large"
  | tooManyDigits digits => Numeral.tooLongText digits
  | twoAlphabets => "ASCII and UNICODE flags are incompatible"

inductive Token where
  | plain (c : Char)
  | escaped (c : Char)
  /-- A backslash at the end. -/
  | dangling
  deriving DecidableEq, Repr

namespace Token

def ofSource : List Char → List Token
  | [] => []
  | ['\\'] => [.dangling]
  | '\\' :: c :: rest => .escaped c :: ofSource rest
  | c :: rest => .plain c :: ofSource rest

/-- The character of a unit that is one by itself. -/
def plain? : Token → Option Char
  | plain c => some c
  | _ => none

def isPlain (inClass : Char → Bool) (t : Token) : Bool := t.plain?.any inClass

/-- The characters that a run of units starts with, as long as they are of a class,
`most` of them at most, and the rest. -/
def takePlain (inClass : Char → Bool) : Nat → List Token → List Char × List Token
  | most + 1, .plain c :: rest =>
      if inClass c then
        let (taken, left) := takePlain inClass most rest
        (c :: taken, left)
      else ([], .plain c :: rest)
  | _, tokens => ([], tokens)

/-- The units before the first plain `stop`, and those after it. -/
def upTo? (stop : Char) : List Token → Option (List Token × List Token)
  | [] => none
  | .dangling :: _ => none
  | t :: rest =>
      if t = .plain stop then some ([], rest)
      else (upTo? stop rest).map fun r => (t :: r.1, r.2)

def text? (tokens : List Token) : Option (List Char) := tokens.mapM plain?

end Token

/-- The greatest number that an octal escape may have. -/
def octalLimit : Nat := 0o377

inductive Escape where
  /-- The character of a number. -/
  | literal (code : Nat)
  /-- A class of characters. -/
  | category
  deriving DecidableEq, Repr

namespace Escape

/-- The letters behind which a class of characters stands. -/
def isCategory (c : Char) : Bool := ['d', 'D', 's', 'S', 'w', 'W'].contains c

/-- The number of the character that a letter stands for behind a backslash. -/
def control? : Char → Option Nat
  | 'a' => some 7
  | 'b' => some 8
  | 't' => some 9
  | 'n' => some 10
  | 'v' => some 11
  | 'f' => some 12
  | 'r' => some 13
  | _ => none

def hexadecimal (count : Nat) (rest : List Token) : Except Defect (Escape × List Token) :=
  let (digits, after) := Token.takePlain Text.isHexadecimal count rest
  let code := Text.numberOf 16 digits
  if digits.length = count ∧ code < 0x110000 then .ok (.literal code, after)
  else .error .malformed

def byName (rest : List Token) : Except Defect (Escape × List Token) :=
  match rest with
  | .plain '\x7b' :: body =>
      match Token.upTo? '\x7d' body with
      | some (name, after) =>
          match (Token.text? name).bind Text.CharacterName.find? with
          | some code => .ok (.literal code, after)
          | none => .error .malformed
      | none => .error .malformed
  | _ => .error .malformed

/-- The escapes that mean the same inside a set and outside.  Any character that is
no letter and no digit stands for itself. -/
def read (c : Char) (rest : List Token) : Except Defect (Escape × List Token) :=
  if isCategory c then .ok (.category, rest)
  else match control? c with
    | some code => .ok (.literal code, rest)
    | none =>
        if c = 'x' then hexadecimal 2 rest
        else if c = 'u' then hexadecimal 4 rest
        else if c = 'U' then hexadecimal 8 rest
        else if c = 'N' then byName rest
        else if c.isAlphanum then .error .malformed
        else .ok (.literal c.toNat, rest)

end Escape

namespace CharacterSet

/-- A member of a set: a character, or what an escape stands for. -/
def member (t : Token) (rest : List Token) : Except Defect (Escape × List Token) :=
  match t with
  | .plain c => .ok (.literal c.toNat, rest)
  | .dangling => .error .malformed
  | .escaped c =>
      if Text.isOctal c then
        let (digits, after) := Token.takePlain Text.isOctal 2 rest
        let code := Text.numberOf 8 (c :: digits)
        if code ≤ octalLimit then .ok (.literal code, after) else .error .malformed
      else Escape.read c rest

def isRange : Escape → Escape → Bool
  | .category, _ | _, .category => false
  | .literal low, .literal high => low ≤ high

/-- The rest after the bracket that closes a set.  A bracket that stands first
is a member.  `fuel` is the number of units. -/
def readFrom : Nat → Bool → List Token → Except Defect (List Token)
  | 0, _, _ => .error .malformed
  | _, _, [] => .error .malformed
  | fuel + 1, started, t :: rest =>
      if started ∧ t = .plain ']' then .ok rest
      else do
        let (low, after) ← member t rest
        match after with
        | .plain '-' :: .plain ']' :: left => pure left
        | .plain '-' :: u :: more => do
            let (high, left) ← member u more
            if isRange low high then readFrom fuel true left else .error .malformed
        | _ => readFrom fuel true after

def read (tokens : List Token) : Except Defect (List Token) :=
  match tokens with
  | .plain '^' :: rest => readFrom tokens.length false rest
  | _ => readFrom (tokens.length + 1) false tokens

end CharacterSet

end Draftsman.Pattern
