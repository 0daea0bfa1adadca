import Amalgam.Text.Glyph
import Amalgam.Text.Slice
/-!
# Quoted text

A text as it is shown inside a message: between single quotes, or double quotes when it holds a single quote and no
double one. Backslashes, the quote in use and everything unprintable are escaped, so the shown text is one line.
-/

namespace Amalgam.Text

/-- `width` hexadecimal digits. -/
def hex (width n : Nat) : List Char :=
  padStart width '0' (Nat.toDigits 16 n)

/-- An escape as short as the code point allows. -/
def escapeCode (n : Nat) : List Char :=
  if n < 0x100 then '\\' :: 'x' :: hex 2 n
  else if n < 0x10000 then '\\' :: 'u' :: hex 4 n
  else '\\' :: 'U' :: hex 8 n

def quotedChar (quote c : Char) : List Char :=
  if c = quote ∨ c = '\\' then ['\\', c]
  else if c = '\n' then ['\\', 'n']
  else if c = '\r' then ['\\', 'r']
  else if c = '\t' then ['\\', 't']
  else if isPrintable c then [c]
  else escapeCode c.toNat

/-- Single quotes, unless only they occur in the text. -/
def quoteFor (cs : List Char) : Char :=
  if cs.contains '\'' && !cs.contains '"' then '"' else '\''

def quoted (s : String) : String :=
  let quote := quoteFor s.toList
  String.ofList (quote :: s.toList.flatMap (quotedChar quote) ++ [quote])

def quotedList (items : List String) : String :=
  "[" ++ joined ", " (items.map quoted) ++ "]"

example : quoted "it's" = "\"it's\"" := by decide
example : quoted "a\n'\"" = "'a\\n\\'\"'" := by decide

end Amalgam.Text
