import Amalgam.Console.Literal
import Amalgam.Console.Style
import Amalgam.Console.StyledText
/-!
# Markup

Text for the console may hold tags in square brackets: `[bold]` opens a style, `[/bold]` closes it and `[/]` closes the
innermost one. A bracket opens a tag only before a small letter or one of `#`, `/`, `@`, so `t[16]` and `v[T]` are plain
text. Backslashes before a tag escape it: every two of them show one, and an odd one makes the tag plain. A tag such as
`[@click=open(1)]` names an action with its arguments, which are read when the tag is closed. Showing markup drops its
tags, and fails at a closing tag that has nothing to close, at arguments that are no literals and at a colour whose
components are no numbers.
-/

namespace Amalgam.Console

open Amalgam.Text

/-- What can be wrong with markup. -/
inductive MarkupFault
  | nothingToClose (position : Nat)
  | notOpen (tag : String) (position : Nat)
  | arguments (parameters : String) (given : List Char) (fault : Literal.Fault)
  | colour (fault : Number.IntegerFault)
deriving DecidableEq, Repr

def MarkupFault.message : MarkupFault → String
  | nothingToClose position => "closing tag '[/]' at position " ++ numeral position ++ " has nothing to close"
  | notOpen tag position =>
    "closing tag '" ++ tag ++ "' at position " ++ numeral position ++ " doesn't match any open tag"
  | arguments parameters given (.form reason) =>
    "error parsing " ++ quoted (String.ofList given) ++ " in " ++ quoted parameters ++ "; " ++ reason
  | arguments parameters _ (.value reason) => "error parsing " ++ quoted parameters ++ "; " ++ reason
  | colour fault => fault.message

namespace Markup

/-- A plain character, or a tag with the number of backslashes before it. -/
inductive Lexeme
  | char (c : Char)
  | tag (escapes : Nat) (body : List Char)
deriving DecidableEq, Repr

def startsTag (c : Char) : Bool :=
  ('a' ≤ c && c ≤ 'z') || c = '#' || c = '/' || c = '@'

/-- What stands between the brackets of a tag, when the text after an opening bracket completes one. -/
def tagBody? (cs : List Char) : Option (List Char) :=
  let body := cs.takeWhile fun c => c != '[' && c != ']'
  if (cs.drop body.length).head? = some ']' && (body.head?.map startsTag).getD false then some body else none

def tagAt? (cs : List Char) : Option (Nat × List Char) :=
  let escapes := (cs.takeWhile (· = '\\')).length
  match cs.drop escapes with
  | '[' :: rest => (tagBody? rest).map fun body => (escapes, body)
  | _ => none

/-- Divides a text from the place where the first `skip` characters have been accounted for. -/
def lexemesFrom : (skip : Nat) → List Char → List Lexeme
  | _, [] => []
  | skip + 1, _ :: rest => lexemesFrom skip rest
  | 0, c :: rest =>
    match tagAt? (c :: rest) with
    | some (escapes, body) => .tag escapes body :: lexemesFrom (escapes + body.length + 1) rest
    | none => .char c :: lexemesFrom 0 rest

def lexemes (s : String) : List Lexeme :=
  lexemesFrom 0 s.toList

/-! ### Escaping -/

def Lexeme.escaped : Lexeme → List Char
  | char c => [c]
  | tag escapes body => List.replicate (2 * escapes + 1) '\\' ++ '[' :: body ++ [']']

/-- Markup that shows a text as it is. A single backslash at the end is doubled, so that it does not escape what comes
after it. -/
def escape (s : String) : String :=
  let cs := (lexemes s).flatMap Lexeme.escaped
  let slashes := (cs.reverse.takeWhile (· = '\\')).length
  String.ofList (if slashes = 1 then cs ++ ['\\'] else cs)

/-! ### Showing -/

/-- A tag that is open: where it began, the normal form of its name, and what follows the equals sign. -/
structure OpenTag where
  start : Nat
  name : String
  parameters : Option String
deriving DecidableEq, Repr

def OpenTag.style (t : OpenTag) : String :=
  match t.parameters with
  | some p => t.name ++ " " ++ p
  | none => t.name

def OpenTag.isAction (t : OpenTag) : Bool :=
  t.name.toList.head? = some '@'

/-- The arguments among the parameters of an action. A name alone has none, and a name before brackets is left out. -/
def actionArguments (parameters : List Char) : List Char :=
  let name := parameters.takeWhile fun c => isWord c || c = '.'
  let rest := parameters.drop name.length
  if rest.isEmpty then ['(', ')']
  else if rest.head? = some '(' && rest.getLast? = some ')' && !rest.contains '\n' then rest
  else parameters

/-- The stretch of a tag that is closed at a place. -/
def OpenTag.close (t : OpenTag) (place : Nat) : Except MarkupFault Span :=
  if t.isAction then
    match t.parameters.filter (· != "") with
    | none => .ok ⟨t.start, place, ""⟩
    | some parameters =>
      let given := actionArguments (trim parameters.toList)
      match Literal.fault? given with
      | some fault => .error (.arguments parameters given fault)
      | none => .ok ⟨t.start, place, ""⟩
  else .ok ⟨t.start, place, t.style⟩

/-- Markup shown so far: its characters and the stretches of its closed tags, last ones first, and the open tags, innermost
first. -/
structure Showing where
  shown : List Char := []
  closed : List Span := []
  opened : List OpenTag := []
deriving DecidableEq, Repr

namespace Showing

/-- Shows a character, unless it would move the cursor. -/
def put (s : Showing) (c : Char) : Showing :=
  if isCursorControl c then s else { s with shown := c :: s.shown }

def place (s : Showing) : Nat :=
  s.shown.length

def close (s : Showing) (t : OpenTag) : Except MarkupFault Showing := do
  return { s with closed := (← t.close s.place) :: s.closed, opened := s.opened.erase t }

/-- The normal form of the name of a style. -/
def normalize (name : String) : Except MarkupFault String :=
  (Style.normalize name).mapError .colour

def follow (s : Showing) (position : Nat) (body : List Char) : Except MarkupFault Showing := do
  let name := body.takeWhile (· != '=')
  match name with
  | '/' :: closing =>
    if closing.all isBlank then
      match s.opened with
      | [] => .error (.nothingToClose position)
      | innermost :: _ => s.close innermost
    else
      let style ← normalize (trimmed (String.ofList closing))
      match s.opened.find? (·.name = style) with
      | some t => s.close t
      | none => .error (.notOpen ("[" ++ String.ofList body ++ "]") position)
  | _ =>
    let parameters := if name.length < body.length then some (String.ofList (body.drop (name.length + 1))) else none
    return { s with opened := ⟨s.place, ← normalize (String.ofList name), parameters⟩ :: s.opened }

/-- The text shown. A tag left open reaches to its end. Stretches come in the order of their starts, and of two that start
together the one closed later comes first. -/
def text (s : Showing) : StyledText :=
  let spans := s.opened.foldl (fun spans t => ⟨t.start, s.place, t.style⟩ :: spans) s.closed
  ⟨s.shown.reverse, spans.mergeSort fun a b => a.start ≤ b.start⟩

end Showing

/-- A backslash that makes the bracket after it plain is not shown itself. -/
def hidesBackslash (c : Char) (rest : List Lexeme) : Bool :=
  c = '\\' && rest.head? = some (.char '[')

def showFrom (position : Nat) (s : Showing) : List Lexeme → Except MarkupFault Showing
  | [] => .ok s
  | .char c :: rest => showFrom (position + 1) (if hidesBackslash c rest then s else s.put c) rest
  | .tag escapes body :: rest => do
    let slashed := (List.replicate (escapes / 2) '\\').foldl Showing.put s
    let next := position + escapes + body.length + 2
    -- Each pair of backslashes shows as one; one without a partner makes the tag plain.
    if escapes % 2 = 1 then showFrom next (('[' :: body ++ [']']).foldl Showing.put slashed) rest
    else showFrom next (← slashed.follow (position + escapes) body) rest

def shown (markup : String) : Except MarkupFault StyledText :=
  (showFrom 0 {} (lexemes markup)).map Showing.text

end Markup

/-- The segments of lines. The words of a style are looked up only now, for the stretches that are left. -/
def segmented (lines : List StyledText) : Except MarkupFault (List Line) :=
  lines.mapM fun line => do
    let _ ← line.spans.mapM fun s => (Style.parse? s.style).mapError MarkupFault.colour
    return line.segments

end Amalgam.Console
