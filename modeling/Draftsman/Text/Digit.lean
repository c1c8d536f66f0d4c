/-
# Draftsman.Text.Digit -- digits of bases up to thirty-six

A number is written in a base with the decimal digits and then the letters of either
case.
-/

namespace Draftsman.Text

set_option autoImplicit false

def isOctal (c : Char) : Bool := '0' ≤ c && c ≤ '7'

/-- Whether a character is a hexadecimal digit with a capital letter, if with any. -/
def isCapitalHexadecimal (c : Char) : Bool := c.isDigit || ('A' ≤ c && c ≤ 'F')

def isHexadecimal (c : Char) : Bool := isCapitalHexadecimal c || ('a' ≤ c && c ≤ 'f')

/-- The value of a digit. -/
def baseDigit (c : Char) : Nat :=
  if c.isDigit then c.toNat - 48 else c.toLower.toNat - 87

def numberOf (base : Nat) (digits : List Char) : Nat :=
  digits.foldl (fun n c => base * n + baseDigit c) 0

end Draftsman.Text
