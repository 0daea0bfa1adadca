import Amalgam.Json.Reader
import Amalgam.Yaml.Token
/-!
# Scanning scalars

Quoted scalars on one or more lines, block scalars with their indentation, and plain scalars. Each function starts at
the scalar's first character and gives its text and the place after it. Line ends inside a quoted or plain scalar fold:
one becomes a blank, and of several all but the first are kept.
-/

namespace Amalgam.Yaml

/-! ### Quoted scalars -/

/-- Blank lines inside a quoted scalar; a document mark must not stand there. -/
def quotedBreaks : (fuel : Nat) → Spot → Except Fault (List Char × Spot)
  | 0, _ => .error .malformed
  | fuel + 1, s =>
    if s.atDocumentMark then .error .malformed
    else
      let s := s.skipWhile fun c => c = ' ' || c = '\t'
      if isBreak s.here then do
        let (c, s) := s.lineBreak
        let (more, s) ← quotedBreaks fuel s
        return (c ++ more, s)
      else .ok ([], s)

/-- What a line end followed by blank lines folds to. -/
def folded (lineBreak breaks : List Char) : List Char :=
  (if lineBreak != ['\n'] then lineBreak else if breaks.isEmpty then [' '] else []) ++ breaks

/-- Blanks between words of a quoted scalar, with the line ends among them folded. -/
def quotedSpaces (s : Spot) : Except Fault (List Char × Spot) := do
  let (spaces, s) := s.takeWhile fun c => c = ' ' || c = '\t'
  if s.here = '\x00' then throw .malformed
  else if isBreak s.here then
    let (c, s) := s.lineBreak
    let (breaks, s) ← quotedBreaks (s.rest.length + 1) s
    return (folded c breaks, s)
  else return (spaces, s)

def shortEscapes : List (Char × Nat) :=
  [('0', 0), ('a', 7), ('b', 8), ('t', 9), ('\t', 9), ('n', 10), ('v', 11), ('f', 12), ('r', 13), ('e', 27), (' ', 32),
    ('"', 34), ('\\', 92), ('/', 47), ('N', 0x85), ('_', 0xA0), ('L', 0x2028), ('P', 0x2029)]

/-- Escapes that are followed by so many hexadecimal digits. -/
def longEscapes : List (Char × Nat) := [('x', 2), ('u', 4), ('U', 8)]

def code? (width : Nat) (cs : List Char) : Option Nat :=
  let digits := (cs.take width).map Number.hexValue?
  if digits.length = width && digits.all Option.isSome then some (digits.foldl (fun n d => n * 16 + d.getD 0) 0) else none

/-- The second half of a character that is given by two codes. -/
def lowHalf? (s : Spot) : Option (Nat × Spot) :=
  match s.rest with
  | '\\' :: mark :: rest => do
    let width ← longEscapes.lookup mark
    let code ← code? width rest
    if 0xDC00 ≤ code && code < 0xE000 then some (code, s.forward (width + 2)) else none
  | _ => none

/-- The character of a code, and the place after it; the code may be the first of two halves. -/
def codeChar (code : Nat) (s : Spot) : Except Fault (Char × Spot) :=
  if 0x80000000 ≤ code then .error .hugeCharacterCode
  else if 0x110000 ≤ code then .error .characterCode
  else
    match lowHalf? s with
    | some (low, after) =>
      if 0xD800 ≤ code && code < 0xDC00 then
        .ok (Char.ofNat (0x10000 + (code - 0xD800) * 1024 + (low - 0xDC00)), after)
      else .ok (Json.unitChar code, s)
    | none => .ok (Json.unitChar code, s)

def escape (s : Spot) : Except Fault (List Char × Spot) :=
  match shortEscapes.lookup s.here, longEscapes.lookup s.here with
  | some code, _ => .ok ([Char.ofNat code], s.next)
  | none, some width =>
    match code? width s.next.rest with
    | some code => do
      let (c, s) ← codeChar code (s.next.forward width)
      return ([c], s)
    | none => .error .malformed
  | none, none =>
    if isBreak s.here then
      let s := s.lineBreak.2
      quotedBreaks (s.rest.length + 1) s
    else .error .malformed

def endsQuotedWord (c : Char) : Bool :=
  c = '\'' || c = '"' || c = '\\' || isGap c

/-- Words of a quoted scalar up to a blank or the closing quote. -/
def quotedWords (double : Bool) : (fuel : Nat) → Spot → Except Fault (List Char × Spot)
  | 0, _ => .error .malformed
  | fuel + 1, s => do
    let (word, s) := s.takeWhile fun c => !endsQuotedWord c
    let c := s.here
    if !double && c = '\'' && s.peek 1 = '\'' then
      let (more, s) ← quotedWords double fuel (s.forward 2)
      return (word ++ '\'' :: more, s)
    else if (double && c = '\'') || (!double && (c = '"' || c = '\\')) then
      let (more, s) ← quotedWords double fuel s.next
      return (word ++ c :: more, s)
    else if double && c = '\\' then
      let (escaped, s) ← escape s.next
      let (more, s) ← quotedWords double fuel s
      return (word ++ escaped ++ more, s)
    else return (word, s)

def quotedBody (double : Bool) : (fuel : Nat) → Spot → Except Fault (List Char × Spot)
  | 0, _ => .error .malformed
  | fuel + 1, s => do
    let (words, s) ← quotedWords double (s.rest.length + 1) s
    if s.here = (if double then '"' else '\'') then return (words, s)
    else
      let (spaces, s) ← quotedSpaces s
      let (more, s) ← quotedBody double fuel s
      return (words ++ spaces ++ more, s)

def quotedScalar (double : Bool) (s : Spot) : Except Fault (List Char × Spot) := do
  let (text, s) ← quotedBody double (s.rest.length + 1) s.next
  return (text, s.next)

/-! ### Block scalars -/

/-- What happens to line ends after the last line of a block scalar. -/
inductive Chomp
  | clip
  | strip
  | keep
deriving DecidableEq, Repr

def chomp? (c : Char) : Option Chomp :=
  if c = '+' then some .keep else if c = '-' then some .strip else none

/-- A digit from one to nine; zero is refused. -/
def increment (s : Spot) : Except Fault (Option Nat × Spot) :=
  if s.here.isDigit then
    if s.here = '0' then .error .malformed else .ok (some (s.here.toNat - '0'.toNat), s.next)
  else .ok (none, s)

/-- The indicators of a block scalar in either order. -/
def blockHeader (s : Spot) : Except Fault (Chomp × Option Nat × Spot) := do
  let (chomp, width, s) ← match chomp? s.here with
    | some chomp => do
      let (width, s) ← increment s.next
      pure (chomp, width, s)
    | none => do
      let (width, s) ← increment s
      match width, chomp? s.here with
      | some _, some chomp => pure (chomp, width, s.next)
      | _, _ => pure (Chomp.clip, width, s)
  if isPlainGap s.here then return (chomp, width, s) else throw .malformed

/-- Blank lines before the first line of a block scalar, and the deepest blank column among them. -/
def leadingLines : (fuel deepest : Nat) → Spot → List Char × Nat × Spot
  | 0, deepest, s => ([], deepest, s)
  | fuel + 1, deepest, s =>
    if s.here = ' ' then leadingLines fuel (max deepest s.next.column) s.next
    else if isBreak s.here then
      let (c, s) := s.lineBreak
      let (more, deepest, s) := leadingLines fuel deepest s
      (c ++ more, deepest, s)
    else ([], deepest, s)

def skipIndent (indent : Nat) (s : Spot) : Spot :=
  s.forward ((s.rest.take (indent - s.column)).takeWhile (· = ' ')).length

def blockBreaks (indent : Nat) : (fuel : Nat) → Spot → List Char × Spot
  | 0, s => ([], s)
  | fuel + 1, s =>
    let s := skipIndent indent s
    if isBreak s.here then
      let (c, s) := s.lineBreak
      let (more, s) := blockBreaks indent fuel s
      (c ++ more, s)
    else ([], s)

/-- The lines of a block scalar: their text, the last line end and the blank lines after it. -/
def blockLines (fold : Bool) (indent : Nat) : (fuel : Nat) → (breaks : List Char) → Spot →
    List Char × List Char × List Char × Spot
  | 0, breaks, s => ([], [], breaks, s)
  | fuel + 1, breaks, s =>
    let solid := s.here != ' ' && s.here != '\t'
    let (line, s) := s.takeWhile fun c => !isBreakOrEnd c
    let (c, s) := s.lineBreak
    let (after, s) := blockBreaks indent (s.rest.length + 1) s
    if s.column = indent && s.here != '\x00' then
      -- Lines that both start with text are joined by a blank, or by the blank lines between them.
      let joint :=
        if fold && c = ['\n'] && solid && s.here != ' ' && s.here != '\t' then
          if after.isEmpty then [' '] else []
        else c
      let (more, last, tail, s) := blockLines fold indent fuel after s
      (breaks ++ line ++ joint ++ more, last, tail, s)
    else (breaks ++ line, c, after, s)

def blockScalar (fold : Bool) (outer : Int) (s : Spot) : Except Fault (List Char × Spot) := do
  let (chomp, width, s) ← blockHeader s.next
  let s ← s.ignoredLine
  let least := max 1 (outer + 1).toNat
  let (breaks, indent, s) := match width with
    | none =>
      let (breaks, deepest, s) := leadingLines (s.rest.length + 1) 0 s
      (breaks, max least deepest, s)
    | some width =>
      let indent := least + width - 1
      let (breaks, s) := blockBreaks indent (s.rest.length + 1) s
      (breaks, indent, s)
  let (text, last, tail, s) :=
    if s.column = indent && s.here != '\x00' then blockLines fold indent (s.rest.length + 1) breaks s
    else ([], [], breaks, s)
  return match chomp with
    | .strip => (text, s)
    | .clip => (text ++ last, s)
    | .keep => (text ++ last ++ tail, s)

/-! ### Plain scalars -/

/-- Blank lines inside a plain scalar, unless a document mark stands there. -/
def plainBreaks : (fuel : Nat) → Spot → Option (List Char) × Spot
  | 0, s => (some [], s)
  | fuel + 1, s =>
    if s.here = ' ' then plainBreaks fuel s.next
    else if isBreak s.here then
      let (c, s) := s.lineBreak
      if s.atDocumentMark then (none, s)
      else
        let (more, s) := plainBreaks fuel s
        (more.map (c ++ ·), s)
    else (some [], s)

/-- Blanks after a word of a plain scalar: what they fold to, whether a line ended, and the place after them. Nothing
means that the scalar ends here. -/
def plainSpaces (s : Spot) : Option (List Char) × Bool × Spot :=
  let (spaces, s) := s.takeWhile (· = ' ')
  if isBreak s.here then
    let (c, s) := s.lineBreak
    if s.atDocumentMark then (none, true, s)
    else
      let (breaks, s) := plainBreaks (s.rest.length + 1) s
      (breaks.map (folded c), true, s)
  else if spaces.isEmpty then (none, false, s)
  else (some spaces, false, s)

def plainWordLength (flow : Bool) : List Char → Nat
  | [] => 0
  | c :: rest =>
    let after := rest.headD '\x00'
    if isGap c || (c = ':' && (isGap after || (flow && ",[]\x7b\x7d".toList.contains after))) ||
        (flow && ",?[]\x7b\x7d".toList.contains c) then 0
    else plainWordLength flow rest + 1

/-- Words of a plain scalar: its text, whether it ended at the start of a line, and the place after it. -/
def plainWords (flow : Bool) (indent : Int) : (fuel : Nat) → Spot → List Char × Bool × Spot
  | 0, s => ([], false, s)
  | fuel + 1, s =>
    let length := if s.here = '#' then 0 else plainWordLength flow s.rest
    let word := s.rest.take length
    let s := s.forward length
    match plainSpaces s with
    | (none, newLine, s) => (word, newLine, s)
    | (some spaces, newLine, s) =>
      let next := if s.here = '#' then 0 else plainWordLength flow s.rest
      if s.here = '#' || (!flow && (s.column : Int) < indent) || next = 0 then (word, newLine, s)
      else
        let (more, newLine, s) := plainWords flow indent fuel s
        (word ++ spaces ++ more, newLine, s)

end Amalgam.Yaml
