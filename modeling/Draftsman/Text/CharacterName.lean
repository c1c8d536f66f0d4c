/-
# Draftsman.Text.CharacterName -- characters by their names

Every character of the standard has a name, and some have further ones.  The names of
Hangul syllables and of ideographs follow rules; all others are listed in tables, one
after the other in the order of their numbers.  The notation of a table leaves out what
a reader can supply:

* `@` and a hexadecimal number say which character the next name is for; without it a
  name is for the character after the last one;
* a name starts with a digit, which says how many letters it shares with the name before
  it, and goes on with the letters after those;
* a small letter stands for the letters that `shorthand` gives;
* a point ends a name, and the ends of lines mean nothing.

`CharacterName.find?` is the number of a character by its name.  Names are found in
letters of either case, but for those that follow rules.
-/
import Draftsman.Text.Digit
import Draftsman.Text.CharacterName.Alphabets
import Draftsman.Text.CharacterName.Symbols
import Draftsman.Text.CharacterName.LaterScripts
import Draftsman.Text.CharacterName.AncientScripts
import Draftsman.Text.CharacterName.Pictures
import Draftsman.Text.CharacterName.Aliases

namespace Draftsman.Text.CharacterName

set_option autoImplicit false

/-! ## Listed names -/

/-- What small letters stand for. -/
def shorthand : List (Char × String) :=
  [('a', " AND "), ('b', " BELOW"), ('c', "CAPITAL LETTER "), ('d', "DOUBLE "), ('e', " ABOVE"),
    ('f', "FINAL FORM"), ('g', "ING"), ('h', "RIGHT"), ('i', " ISOLATED FORM"),
    ('j', "INITIAL FORM"), ('k', "TRIANGLE"), ('l', "LETTER "), ('m', "SMALL "),
    ('n', "CIRCLE"), ('o', "OR"), ('p', " SYMBOL"), ('q', "VERTICAL "), ('r', "ARROW"),
    ('s', "SMALL LETTER "), ('t', "LEFT"), ('u', "WARDS "), ('v', "VOWEL SIGN "),
    ('w', " WITH "), ('x', " SIGN"), ('y', "TION"), ('z', "POINTING ")]

def lettersOf (c : Char) : List Char :=
  if c.isLower then ((shorthand.lookup c).map String.toList).getD [c] else [c]

/-- Cuts a table at its points. -/
def cut (table : String) : List (List Char) :=
  table.toList.foldr (fun c found =>
    if c = '.' then [] :: found
    else if c = '\n' then found
    else match found with
      | [] => [[c]]
      | first :: others => (c :: first) :: others) [[]]

/-- The names of a table's pieces with the numbers of their characters.  The next name
is for the character of the number `next`, and follows the name `last`. -/
def names (next : Nat) (last : List Char) : List (List Char) → List (List Char × Nat)
  | [] => []
  | [] :: rest => names next last rest
  | ('@' :: digits) :: rest => names (numberOf 16 digits) last rest
  | (shared :: letters) :: rest =>
      let name := last.take (baseDigit shared) ++ letters.flatMap lettersOf
      (name, next) :: names (next + 1) name rest

def tables : List String :=
  [alphabets, symbols, laterScripts, ancientScripts, pictures, aliases]

def listed? (name : List Char) : Option Nat :=
  tables.findSome? fun table => (names 0 [] (cut table)).lookup name

/-! ## Names with a number -/

/-- Characters that are named by their own numbers. -/
structure Family where
  /-- What stands before the number. -/
  title : String
  /-- The closed ranges of the numbers. -/
  ranges : List (Nat × Nat)
  deriving Repr

namespace Family

def member? (family : Family) (name : List Char) : Option (List Char × Nat) :=
  (family.title.toList.isPrefixOf? name).bind fun digits =>
    let number := numberOf 16 digits
    if digits.all isCapitalHexadecimal && family.ranges.any fun range =>
        range.1 ≤ number && number ≤ range.2 then
      some (digits, number)
    else none

end Family

/-- The ideographs, whose numbers may be written with four digits or with five. -/
def ideographs : Family :=
  ⟨"CJK UNIFIED IDEOGRAPH-",
    [(0x3400, 0x4dbf), (0x4e00, 0x9fff), (0x20000, 0x2a6df), (0x2a700, 0x2b738),
      (0x2b740, 0x2b81d), (0x2b820, 0x2cea1), (0x2ceb0, 0x2ebe0), (0x30000, 0x3134a)]⟩

/-- The families whose numbers are written without leading zeros. -/
def families : List Family :=
  [⟨"CJK COMPATIBILITY IDEOGRAPH-", [(0xf900, 0xfa6d), (0xfa70, 0xfad9), (0x2f800, 0x2fa1d)]⟩,
    ⟨"KHITAN SMALL SCRIPT CHARACTER-", [(0x18b00, 0x18cd5)]⟩,
    ⟨"NUSHU CHARACTER-", [(0x1b170, 0x1b2fb)]⟩]

def ideograph? (name : List Char) : Option Nat :=
  match ideographs.member? name with
  | some (digits, number) =>
      if digits.length = 4 ∨ digits.length = 5 then some number else none
  | none => none

def numbered? (name : List Char) : Option Nat :=
  families.findSome? fun family =>
    match family.member? name with
    | some (digits, number) => if digits.head? = some '0' then none else some number
    | none => none

/-! ## Hangul syllables -/

def leads : List String :=
  ["G", "GG", "N", "D", "DD", "R", "M", "B", "BB", "S", "SS", "", "J", "JJ", "C", "K", "T", "P",
    "H"]

def vowels : List String :=
  ["A", "AE", "YA", "YAE", "EO", "E", "YEO", "YE", "O", "WA", "WAE", "OE", "YO", "U", "WEO",
    "WE", "WI", "YU", "EU", "YI", "I"]

def tails : List String :=
  ["", "G", "GG", "GS", "N", "NJ", "NH", "D", "L", "LG", "LM", "LB", "LS", "LT", "LP", "LH", "M",
    "B", "BS", "S", "SS", "NG", "J", "C", "K", "T", "P", "H"]

def firstSyllable : Nat := 0xac00

/-- The number of the Hangul syllable of a name.  Syllables are ordered by their leads,
then by their vowels, then by their tails. -/
def syllable? (name : List Char) : Option Nat :=
  ("HANGUL SYLLABLE ".toList.isPrefixOf? name).bind fun sounds =>
    leads.zipIdx.findSome? fun lead =>
      (lead.1.toList.isPrefixOf? sounds).bind fun afterLead =>
        vowels.zipIdx.findSome? fun vowel =>
          (vowel.1.toList.isPrefixOf? afterLead).bind fun tail =>
            (tails.idxOf? (String.ofList tail)).map fun place =>
              firstSyllable + (lead.2 * vowels.length + vowel.2) * tails.length + place

/-! ## All names -/

def find? (name : List Char) : Option Nat :=
  let capital := name.map Char.toUpper
  (syllable? name).or ((ideograph? name).or ((numbered? capital).or (listed? capital)))

end Draftsman.Text.CharacterName
