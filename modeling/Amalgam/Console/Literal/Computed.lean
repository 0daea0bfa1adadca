import Amalgam.Console.Literal.Strings
/-!
# Computed strings

A string marked with the letter f holds expressions in braces, each with a conversion after an exclamation mark and a format
after a colon, where the format may hold expressions again. A brace that is text is doubled. Such a string is no literal,
but a fault in it goes before that.
-/

namespace Amalgam.Console.Literal

open Amalgam.Text

namespace Computed

/-- The outcome of reading a part: what follows it, or a fault. -/
abbrev Part := Except String (List Char)

/-- What may stand in an expression in braces: a quote that is open, whether it is threefold, and open brackets. -/
structure Inside where
  quote : Option (Char × Bool) := none
  opened : List Char := []
deriving DecidableEq, Repr

/-- What a character does inside an expression: how many characters after it belong to it, and what is open then. An
expression ends at a character that does nothing. -/
def step (inside : Inside) (c : Char) (rest : List Char) : Except String (Option (Nat × Inside)) :=
  let threefold := rest.take 2 = [c, c]
  if c = '\\' then .error "f-string expression part cannot include a backslash"
  else
    match inside.quote with
    | some (quote, triple) =>
      if c = quote && (!triple || threefold) then .ok (some (if triple then 2 else 0, { inside with quote := none }))
      else .ok (some (0, inside))
    | none =>
      if c = '\'' || c = '"' then .ok (some (if threefold then 2 else 0, { inside with quote := some (c, threefold) }))
      else if c = '(' || c = '{' then
        if 200 ≤ inside.opened.length then .error "f-string: too many nested parenthesis"
        else .ok (some (0, { inside with opened := c :: inside.opened }))
      else if c = '#' then .error "f-string expression part cannot include '#'"
      else if inside.opened.isEmpty && ['!', ':', '}', '=', '<', '>'].contains c then
        if rest.head? = some '=' && c != ':' && c != '}' then .ok (some (1, inside))
        else if c = '<' || c = '>' then .ok (some (0, inside))
        else .ok none
      else if c = ')' || c = '}' then
        match inside.opened with
        | [] => .error ("f-string: unmatched '" ++ String.singleton c ++ "'")
        | bracket :: opened =>
          if (bracket = '(') = (c = ')') then .ok (some (0, { inside with opened }))
          else .error ("f-string: closing parenthesis '" ++ String.singleton c ++
            "' does not match opening parenthesis '" ++ String.singleton bracket ++ "'")
      else .ok (some (0, inside))

/-- The text of an expression up to the character that ends it, and the rest from that character on. The first `taken`
characters have been accounted for. -/
def expressionText : (taken : Nat) → Inside → List Char → Except String (List Char × List Char)
  | _, inside, [] =>
    match inside.quote, inside.opened with
    | some _, _ => .error "f-string: unterminated string"
    | none, bracket :: _ => .error ("f-string: unmatched '" ++ String.singleton bracket ++ "'")
    | none, [] => .ok ([], [])
  | taken + 1, inside, c :: rest => do
    let (text, after) ← expressionText taken inside rest
    return (c :: text, after)
  | 0, inside, c :: rest => do
    match ← step inside c rest with
    | none => return ([], c :: rest)
    | some (more, inside) =>
      let (text, after) ← expressionText more inside rest
      return (c :: text, after)

/-- The literal text up to a brace, and the rest: at the brace, or after a doubled one. -/
def literalText (raw nested : Bool) : List Char → Except String (List Char × List Char × Bool)
  | [] => .ok ([], [], false)
  | '\\' :: c :: rest =>
    if raw || c = '{' || c = '}' then do
      let (text, after, doubled) ← literalText raw nested (c :: rest)
      return ('\\' :: text, after, doubled)
    else do
      let (text, after, doubled) ← literalText raw nested rest
      return ('\\' :: c :: text, after, doubled)
  | c :: rest =>
    if c = '{' || c = '}' then
      if !nested && rest.head? = some c then .ok ([c], rest.drop 1, true)
      else if !nested && c = '}' then .error "f-string: single '\x7d' is not allowed"
      else .ok ([], c :: rest, false)
    else do
      let (text, after, doubled) ← literalText raw nested rest
      return (c :: text, after, doubled)

def expectingBrace : String := "f-string: expecting '\x7d'"

def isVoid (text : List Char) : Bool :=
  text.all fun c => c = ' ' || c = '\t' || c = '\n' || c = '\x0c'

/-- What follows the expression and its conversion. -/
def conversion : List Char → Part
  | '!' :: rest =>
    match rest with
    | [] => .error expectingBrace
    | c :: after =>
      if c = 's' || c = 'r' || c = 'a' then .ok after
      else .error "f-string: invalid conversion character: expected 's', 'r', or 'a'"
  | rest => .ok rest

mutual

/-- Reads a string, or a format, up to its end. -/
def parts (inner : List Char → Option String) (raw : Bool) : (fuel level : Nat) → List Char → Part
  | 0, _, rest => .ok rest
  | fuel + 1, level, rest => do
    let (text, after, doubled) ← literalText raw (level != 0) rest
    match if raw then none else textFault? text with
    | some fault => .error fault
    | none =>
      if doubled then parts inner raw fuel level after
      else
        match after with
        | '{' :: body => parts inner raw fuel level (← field inner raw fuel level body)
        | rest => .ok rest

def field (inner : List Char → Option String) (raw : Bool) : (fuel level : Nat) → List Char → Part
  | 0, _, rest => .ok rest
  | fuel + 1, level, body => do
    if 2 ≤ level then .error "f-string: expressions nested too deeply"
    let (text, after) ← expressionText 0 {} body
    match after with
    | [] => .error expectingBrace
    | c :: rest =>
      if isVoid text then
        .error (if c = '}' then "f-string: empty expression not allowed"
          else "f-string: expression required before '" ++ String.singleton c ++ "'")
      match inner ('(' :: text ++ [')']) with
      | some fault => .error fault
      | none =>
        let shown := if c = '=' then rest.dropWhile isBlank else after
        if shown.isEmpty then .error expectingBrace
        let converted ← conversion shown
        let formatted ← match converted with
          | ':' :: format => if format.isEmpty then .error expectingBrace else parts inner raw fuel (level + 1) format
          | rest => .ok rest
        match formatted with
        | '}' :: rest => return rest
        | _ => .error expectingBrace

end

def fault? (inner : List Char → Option String) (w : Written) : Option String :=
  match parts inner (w.letters.contains 'r') (2 * w.body.length + 2) 0 w.body with
  | .error fault => some fault
  | .ok _ => none

end Computed

/-- The first fault in strings side by side, given how to find one in an expression inside a string. -/
def stringsFault? (inner : List Char → Option String) (texts : List (List Char)) : Option String :=
  let strings := texts.map Written.ofText
  let bytes := (strings.head?.map Written.isBytes).getD false
  strings.findSome? fun w =>
    (w.fault?.orElse fun _ => if w.isBytes = bytes then none else some "cannot mix bytes and nonbytes literals").orElse
      fun _ => if w.isComputed then Computed.fault? inner w else none

end Amalgam.Console.Literal
