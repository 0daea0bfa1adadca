import Amalgam.Value
/-!
# Writing JSON

A value on several lines, each level two blanks further in. Empty lists and mappings stay on one line. Characters
outside ASCII are escaped or kept, as the caller asks; a kind of value without a form of its own is refused, or written
as its text.
-/

namespace Amalgam.Json

open Amalgam.Number Amalgam.Text

/-- How values are written. -/
structure Style where
  escapeNonAscii : Bool
  anyAsText : Bool

/-- What every file and report uses. -/
def Style.standard : Style := ⟨true, false⟩

/-- What the command line prints about itself: characters as they are, and every kind of value. -/
def Style.readable : Style := ⟨false, true⟩

/-- A value or key that has no form. -/
inductive Unwritable
  | value (kind : String)
  | key (kind : String)
deriving DecidableEq, Repr

def escapedChar (style : Style) (c : Char) : List Char :=
  let n := c.toNat
  if c = '"' then ['\\', '"']
  else if c = '\\' then ['\\', '\\']
  else if c = '\n' then ['\\', 'n']
  else if c = '\r' then ['\\', 'r']
  else if c = '\t' then ['\\', 't']
  else if n = 8 then ['\\', 'b']
  else if n = 12 then ['\\', 'f']
  else if n < 32 then '\\' :: 'u' :: hex 4 n
  else if n < 127 then [c]
  else if !style.escapeNonAscii then [c]
  else if n < 0x10000 then '\\' :: 'u' :: hex 4 n
  else
    '\\' :: 'u' :: hex 4 (0xD800 + (n - 0x10000) / 1024) ++ '\\' :: 'u' :: hex 4 (0xDC00 + (n - 0x10000) % 1024)

def quotedText (style : Style) (s : String) : String :=
  String.ofList ('"' :: s.toList.flatMap (escapedChar style) ++ ['"'])

/-- A floating-point number, with words for what has no digits. -/
def floatText : Binary64 → String
  | .nan => "NaN"
  | .infinite false => "Infinity"
  | .infinite true => "-Infinity"
  | x => x.text

def keyText (key : Value) : Except Unwritable String :=
  match key with
  | .text s => .ok s
  | .null => .ok "null"
  | .bool b => .ok (if b then "true" else "false")
  | .int n => .ok (numeral n)
  | .float x => .ok (floatText x)
  | v => .error (.key v.kindName)

def newline (level : Nat) : String :=
  "\n" ++ repeated (2 * level) ' '

mutual

/-- A value whose first line is already indented to its level. -/
def render (style : Style) (level : Nat) : Value → Except Unwritable String
  | .null => .ok "null"
  | .bool b => .ok (if b then "true" else "false")
  | .int n => .ok (numeral n)
  | .float x => .ok (floatText x)
  | .text s => .ok (quotedText style s)
  | .list items =>
    if items.isEmpty then .ok "[]"
    else do
      let parts ← renderItems style (level + 1) items
      return "[" ++ newline (level + 1) ++ joined ("," ++ newline (level + 1)) parts ++ newline level ++ "]"
  | .tuple items =>
    if items.isEmpty then .ok "[]"
    else do
      let parts ← renderItems style (level + 1) items
      return "[" ++ newline (level + 1) ++ joined ("," ++ newline (level + 1)) parts ++ newline level ++ "]"
  | .map fields =>
    if fields.isEmpty then .ok "\x7b\x7d"
    else do
      let parts ← renderFields style (level + 1) fields
      return "\x7b" ++ newline (level + 1) ++ joined ("," ++ newline (level + 1)) parts ++ newline level ++ "\x7d"
  | v => if style.anyAsText then .ok (quotedText style v.shown) else .error (.value v.kindName)

def renderItems (style : Style) (level : Nat) : List Value → Except Unwritable (List String)
  | [] => .ok []
  | v :: rest => do
    let part ← render style level v
    let parts ← renderItems style level rest
    return part :: parts

def renderFields (style : Style) (level : Nat) : List (Value × Value) → Except Unwritable (List String)
  | [] => .ok []
  | (k, v) :: rest => do
    let name ← keyText k
    let part ← render style level v
    let parts ← renderFields style level rest
    return (quotedText style name ++ ": " ++ part) :: parts

end

def write (style : Style) (v : Value) : Except Unwritable String :=
  render style 0 v

def Unwritable.message : Unwritable → String
  | .value kind => "Object of type " ++ kind ++ " is not JSON serializable"
  | .key kind => "keys must be str, int, float, bool or None, not " ++ kind

end Amalgam.Json
