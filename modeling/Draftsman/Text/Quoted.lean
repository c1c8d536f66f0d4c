/-
# Draftsman.Text.Quoted -- texts shown inside messages

A text is shown between quotes, with what cannot be shown written as an escape.
Single quotes are used, unless the text holds a single quote and no double one.

* `quoted` is the shown form;
* `escaped` is the body between the quotes, one character at a time.
-/
import Draftsman.Text.Encoding
import Draftsman.Text.Printable

namespace Draftsman.Text

set_option autoImplicit false

def escapedChar (quote c : Char) : List Char :=
  if c = quote ∨ c = '\\' then ['\\', c]
  else if c = '\n' then ['\\', 'n']
  else if c = '\r' then ['\\', 'r']
  else if c = '\t' then ['\\', 't']
  else if isPrintable c then [c]
  else if c.toNat < 0x100 then '\\' :: 'x' :: hexadecimal 2 c.toNat
  else if c.toNat < 0x10000 then '\\' :: 'u' :: hexadecimal 4 c.toNat
  else match half? c with
    | some half => halfEscape half
    | none => '\\' :: 'U' :: hexadecimal 8 c.toNat

def escaped (quote : Char) (text : List Char) : List Char :=
  text.flatMap (escapedChar quote)

/-- The quote that needs the fewest escapes, single ones preferred. -/
def quoteFor (text : List Char) : Char :=
  if text.contains '\'' && !text.contains '"' then '"' else '\''

def quoted (text : String) : String :=
  let quote := quoteFor text.toList
  String.ofList (quote :: escaped quote text.toList ++ [quote])

end Draftsman.Text
