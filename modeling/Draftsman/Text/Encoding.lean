/-
# Draftsman.Text.Encoding -- texts that have no bytes

An escape in a document can name one half of a pair that stands for a character.  A
half that stands alone is no character, and a text with one in it can be held and
compared, but has no bytes: it is not written to a file or printed.  Here it is held by
a stand-in, the private character `0x100000` places above it; that character is taken for
the half wherever it comes from.

* `unencodable?` finds the first halves of a text, and `Unencodable.message` words it;
* `withEscapes` is the text as it is reported, with an escape for each half;
* `hexadecimal` is the body of every numeric escape, in messages and documents.
-/

namespace Draftsman.Text

set_option autoImplicit false

/-- A number in lower-case hexadecimal, with zeros in front up to a width. -/
def hexadecimal (width n : Nat) : List Char :=
  let digits := Nat.toDigits 16 n
  List.replicate (width - digits.length) '0' ++ digits

/-- The character that stands for a half. -/
def standIn (half : Nat) : Char := Char.ofNat (0x100000 + half)

def half? (c : Char) : Option Nat :=
  if 0x10d800 ≤ c.toNat ∧ c.toNat < 0x10e000 then some (c.toNat - 0x100000) else none

def isHalf (c : Char) : Bool := (half? c).isSome

def halfEscape (half : Nat) : List Char := '\\' :: 'u' :: hexadecimal 4 half

/-- The first run of halves in a text: its place, its first half, and how many follow. -/
structure Unencodable where
  offset : Nat
  half : Nat
  more : Nat
  deriving DecidableEq, Repr

def Unencodable.message (found : Unencodable) : String :=
  let place :=
    if found.more = 0 then
      "character '" ++ String.ofList (halfEscape found.half) ++ "' in position " ++
        toString found.offset
    else
      "characters in position " ++ toString found.offset ++ "-" ++
        toString (found.offset + found.more)
  "'utf-8' codec can't encode " ++ place ++ ": surrogates not allowed"

/-- What keeps a text from having bytes. -/
def unencodable? (text : String) : Option Unencodable :=
  let before := text.toList.takeWhile fun c => !isHalf c
  match (text.toList.drop before.length).takeWhile isHalf with
  | [] => none
  | c :: others => some ⟨before.length, (half? c).getD 0, others.length⟩

def withEscapes (text : String) : String :=
  String.ofList (text.toList.flatMap fun c => ((half? c).map halfEscape).getD [c])

end Draftsman.Text
