import Amalgam.Text.Encoding
import Amalgam.Yaml.Scalar
/-!
# Scanning a document into tokens

Structure is given by indentation outside brackets and by brackets inside them. A key need not be marked: anything that
could be one is remembered, one candidate per bracket level, and turns into a key when a colon follows on the same line.

A token is passed on as soon as it is known that no key starts before it. When scanning fails, the tokens passed on before
are still good: whoever reads them meets the fault only when they ask for more.
-/

namespace Amalgam.Yaml

/-- Something that may turn out to be a key: the place of its first token and where it stands. -/
structure Candidate where
  level : Nat
  token : Nat
  required : Bool
  index : Nat
  line : Nat
  column : Nat
deriving DecidableEq, Repr

/-- The tokens found and not yet passed on, and what is needed to go on. -/
structure Scanner where
  spot : Spot
  tokens : List Token := []
  /-- How many tokens have been passed on. -/
  passed : Nat := 0
  level : Nat := 0
  candidates : List Candidate := []
  keyAllowed : Bool := true
  indent : Int := -1
  indents : List Int := []
deriving Repr

namespace Scanner

def emit (s : Scanner) (t : Token) : Scanner :=
  { s with tokens := s.tokens ++ [t] }

/-- A token, and the place after it. -/
def emitAt (s : Scanner) (t : Token) (spot : Spot) : Scanner :=
  { s with tokens := s.tokens ++ [t], spot := spot }

/-- A token put in before others; its place counts from the first token of the text. -/
def insert (s : Scanner) (place : Nat) (t : Token) : Scanner :=
  { s with tokens := s.tokens.take (place - s.passed) ++ t :: s.tokens.drop (place - s.passed) }

/-- Candidates that a line end or too many characters have ruled out are dropped; a required one must not be. -/
def dropStale (s : Scanner) : Except Fault Scanner :=
  let stale (c : Candidate) : Bool := c.line != s.spot.line || 1024 < s.spot.index - c.index
  if s.candidates.any fun c => stale c && c.required then .error .malformed
  else .ok { s with candidates := s.candidates.filter fun c => !stale c }

/-- Drops the candidate of the current level; a required one must not be. -/
def dropCandidate (s : Scanner) : Except Fault Scanner :=
  if s.candidates.any fun c => c.level = s.level && c.required then .error .malformed
  else .ok { s with candidates := s.candidates.filter fun c => c.level != s.level }

/-- Remembers the next token as a candidate. -/
def saveCandidate (s : Scanner) : Except Fault Scanner := do
  if !s.keyAllowed then return s
  -- Outside brackets nothing but a key can stand at the column of the current block.
  let required := s.level = 0 && s.indent = s.spot.column
  let s ← s.dropCandidate
  return { s with
    candidates := ⟨s.level, s.passed + s.tokens.length, required, s.spot.index, s.spot.line, s.spot.column⟩ :: s.candidates }

/-- The blocks that stay open at a column, outermost last, and how many are closed. -/
def closedAt (column : Int) : (indent : Int) → (outer : List Int) → Nat × Int × List Int
  | indent, [] => (0, indent, [])
  | indent, next :: rest =>
    if column < indent then
      let (n, indent, outer) := closedAt column next rest
      (n + 1, indent, outer)
    else (0, indent, next :: rest)

def unwind (s : Scanner) (column : Int) : Scanner :=
  if s.level != 0 then s
  else
    let (n, indent, indents) := closedAt column s.indent s.indents
    { s with indent := indent, indents := indents, tokens := s.tokens ++ List.replicate n .blockEnd }

/-- Opens a block at a column, unless one is open there. -/
def deepen (s : Scanner) (column : Int) : Bool × Scanner :=
  if s.indent < column then (true, { s with indents := s.indent :: s.indents, indent := column }) else (false, s)

def skipToToken : (fuel : Nat) → Scanner → Scanner
  | 0, s => s
  | fuel + 1, s =>
    let spot := s.spot.skipWhile (· = ' ')
    let spot := if spot.here = '#' then spot.skipWhile fun c => !isBreakOrEnd c else spot
    let (c, after) := spot.lineBreak
    if c.isEmpty then { s with spot := spot }
    else skipToToken fuel { s with spot := after, keyAllowed := s.keyAllowed || s.level = 0 }

/-! ### Indicators -/

def streamEnd (s : Scanner) : Except Fault Scanner := do
  let s ← (s.unwind (-1)).dropCandidate
  return ({ s with keyAllowed := false, candidates := [] }).emit .streamEnd

def documentMark (s : Scanner) (t : Token) : Except Fault Scanner := do
  let s ← (s.unwind (-1)).dropCandidate
  return ({ s with keyAllowed := false }).emitAt t (s.spot.forward 3)

def openBracket (s : Scanner) (t : Token) : Except Fault Scanner := do
  let s ← s.saveCandidate
  return ({ s with level := s.level + 1, keyAllowed := true }).emitAt t s.spot.next

def closeBracket (s : Scanner) (t : Token) : Except Fault Scanner := do
  let s ← s.dropCandidate
  if s.level = 0 then throw .malformed
  return ({ s with level := s.level - 1, keyAllowed := false }).emitAt t s.spot.next

def flowEntry (s : Scanner) : Except Fault Scanner := do
  let s ← ({ s with keyAllowed := true }).dropCandidate
  return s.emitAt .flowEntry s.spot.next

/-- Opens a block for an indicator at the current column. -/
def blockFor (s : Scanner) (start : Token) : Except Fault Scanner :=
  if s.level != 0 then .ok s
  else if !s.keyAllowed then .error .malformed
  else
    let (opened, s) := s.deepen s.spot.column
    .ok (if opened then s.emit start else s)

def blockEntry (s : Scanner) : Except Fault Scanner := do
  let s ← s.blockFor .blockSequenceStart
  let s ← ({ s with keyAllowed := true }).dropCandidate
  return s.emitAt .blockEntry s.spot.next

def markedKey (s : Scanner) : Except Fault Scanner := do
  let s ← s.blockFor .blockMappingStart
  let s ← ({ s with keyAllowed := s.level = 0 }).dropCandidate
  return s.emitAt .key s.spot.next

/-- A colon: the candidate of this level becomes a key, or the value of a marked key starts. -/
def colon (s : Scanner) : Except Fault Scanner := do
  match s.candidates.find? fun c => c.level = s.level with
  | some c =>
    let s := { s with candidates := s.candidates.filter fun d => d.level != s.level, keyAllowed := false }
    -- The key has been scanned already, so its marks go in front of the tokens that came of it.
    let s := s.insert c.token .key
    let (opened, s) := if s.level = 0 then s.deepen c.column else (false, s)
    let s := if opened then s.insert c.token .blockMappingStart else s
    return s.emitAt .value s.spot.next
  | none =>
    let s ← s.blockFor .blockMappingStart
    let s ← ({ s with keyAllowed := s.level = 0 }).dropCandidate
    return s.emitAt .value s.spot.next

/-! ### Directives, anchors and tags -/

def digits (spot : Spot) : Except Fault (Nat × Spot) := do
  let (ds, spot) := spot.takeWhile Char.isDigit
  if ds.isEmpty then throw .malformed
  let n ← (Number.readInteger 10 ds).mapError .integer
  return (n.toNat, spot)

def tagHandle (spot : Spot) : Except Fault (String × Spot) :=
  match spot.rest with
  | '!' :: rest =>
    if rest.headD '\x00' = ' ' then .ok ("!", spot.next)
    else
      let name := rest.takeWhile isNameChar
      if (rest.drop name.length).head? = some '!' then
        .ok (String.ofList ('!' :: name ++ ['!']), spot.forward (name.length + 2))
      else .error .malformed
  | _ => .error .malformed

def isUriChar (c : Char) : Bool :=
  c.isAlphanum || "-;/?:@&=+$,_.!~*'()[]".toList.contains c

/-- The bytes of a row of percent escapes, and the place after them. -/
def escapedBytes : (fuel : Nat) → Spot → Except Fault (List UInt8 × Spot)
  | 0, s => .ok ([], s)
  | fuel + 1, s =>
    if s.here = '%' then
      match code? 2 s.next.rest with
      | some code => do
        let (more, after) ← escapedBytes fuel (s.forward 3)
        return (code.toUInt8 :: more, after)
      | none => .error .malformed
    else .ok ([], s)

/-- The characters of a tag; each row of percent escapes is a text in UTF-8. -/
def uri : (fuel : Nat) → Spot → Except Fault (List Char × Spot)
  | 0, _ => .error .malformed
  | fuel + 1, s =>
    if s.here = '%' then do
      let (bytes, s) ← escapedBytes s.rest.length s
      let text ← (Text.Codec.utf8.decode false bytes).mapError fun _ => Fault.malformed
      let (more, s) ← uri fuel s
      return (text.filterMap Text.Glyph.char? ++ more, s)
    else if isUriChar s.here then do
      let (more, after) ← uri fuel s.next
      return (s.here :: more, after)
    else .ok ([], s)

def tagText (s : Spot) : Except Fault (String × Spot) := do
  let (cs, s) ← uri (s.rest.length + 1) s
  if cs.isEmpty then throw .malformed
  return (String.ofList cs, s)

def directive (s : Scanner) : Except Fault Scanner := do
  let s ← (s.unwind (-1)).dropCandidate
  let s := { s with keyAllowed := false }
  let (name, spot) := s.spot.next.takeWhile isNameChar
  if name.isEmpty || !isPlainGap spot.here then throw .malformed
  if name = "YAML".toList then
    let (major, spot) ← digits (spot.skipWhile (· = ' '))
    if spot.here != '.' then throw .malformed
    let (_, spot) ← digits spot.next
    if !isPlainGap spot.here then throw .malformed
    return s.emitAt (.versionDirective major) (← spot.ignoredLine)
  else if name = "TAG".toList then
    let (handle, spot) ← tagHandle (spot.skipWhile (· = ' '))
    if spot.here != ' ' then throw .malformed
    let (start, spot) ← tagText (spot.skipWhile (· = ' '))
    if !isPlainGap spot.here then throw .malformed
    return s.emitAt (.tagDirective handle start) (← spot.ignoredLine)
  else
    let spot := spot.skipWhile fun c => !isBreakOrEnd c
    return s.emitAt .otherDirective (← spot.ignoredLine)

def named (s : Scanner) (token : String → Token) : Except Fault Scanner := do
  let s ← s.saveCandidate
  let (name, spot) := s.spot.next.takeWhile isNameChar
  if name.isEmpty || !(isGap spot.here || "?:,]\x7d%@`".toList.contains spot.here) then throw .malformed
  return ({ s with keyAllowed := false }).emitAt (token (String.ofList name)) spot

def tagParts (spot : Spot) : Except Fault (Option String × String × Spot) := do
  let c := spot.peek 1
  if c = '<' then
    let (text, spot) ← tagText (spot.forward 2)
    if spot.here != '>' then throw .malformed
    return (none, text, spot.next)
  else if isGap c then return (none, "!", spot.next)
  else
    let word := (spot.rest.drop 1).takeWhile fun c => !isPlainGap c
    if word.contains '!' then
      let (handle, spot) ← tagHandle spot
      let (text, spot) ← tagText spot
      return (some handle, text, spot)
    else
      let (text, spot) ← tagText spot.next
      return (some "!", text, spot)

def tag (s : Scanner) : Except Fault Scanner := do
  let s ← s.saveCandidate
  let (handle, suffix, spot) ← tagParts s.spot
  if !isPlainGap spot.here then throw .malformed
  return ({ s with keyAllowed := false }).emitAt (.tag handle suffix) spot

/-! ### Scalars -/

def block (s : Scanner) (fold : Bool) : Except Fault Scanner := do
  let s ← ({ s with keyAllowed := true }).dropCandidate
  let (text, spot) ← blockScalar fold s.indent s.spot
  return s.emitAt (.scalar text false) spot

def quoted (s : Scanner) (double : Bool) : Except Fault Scanner := do
  let s ← s.saveCandidate
  let (text, spot) ← quotedScalar double s.spot
  return ({ s with keyAllowed := false }).emitAt (.scalar text false) spot

def plain (s : Scanner) : Except Fault Scanner := do
  let s ← s.saveCandidate
  let (text, newLine, spot) := plainWords (s.level != 0) (s.indent + 1) (s.spot.rest.length + 1) s.spot
  return ({ s with keyAllowed := newLine }).emitAt (.scalar text true) spot

def startsPlain (s : Scanner) : Bool :=
  let c := s.spot.here
  !(isGap c || "-?:,[]\x7b\x7d#&*!|>'\"%@`".toList.contains c) ||
    (!isGap (s.spot.peek 1) && (c = '-' || (s.level = 0 && (c = '?' || c = ':'))))

/-- The next tokens; the flag tells whether the text has ended. -/
def step (s : Scanner) : Except Fault (Bool × Scanner) := do
  let s := skipToToken (s.spot.rest.length + 1) s
  let s ← s.dropStale
  let s := s.unwind s.spot.column
  let c := s.spot.here
  let gap := isGap (s.spot.peek 1)
  if c = '\x00' then return (true, ← s.streamEnd)
  let s ←
    if c = '%' && s.spot.column = 0 then s.directive
    else if c = '-' && s.spot.column = 0 && s.spot.atDocumentMark then s.documentMark .documentStart
    else if c = '.' && s.spot.column = 0 && s.spot.atDocumentMark then s.documentMark .documentEnd
    else if c = '[' then s.openBracket .flowSequenceStart
    else if c = '\x7b' then s.openBracket .flowMappingStart
    else if c = ']' then s.closeBracket .flowSequenceEnd
    else if c = '\x7d' then s.closeBracket .flowMappingEnd
    else if c = ',' then s.flowEntry
    else if c = '-' && gap then s.blockEntry
    else if c = '?' && (s.level != 0 || gap) then s.markedKey
    else if c = ':' && (s.level != 0 || gap) then s.colon
    else if c = '*' then s.named .alias
    else if c = '&' then s.named .anchor
    else if c = '!' then s.tag
    else if c = '|' && s.level = 0 then s.block false
    else if c = '>' && s.level = 0 then s.block true
    else if c = '\'' then s.quoted false
    else if c = '"' then s.quoted true
    else if s.startsPlain then s.plain
    else throw .malformed
  return (false, s)

/-- Passes on the tokens before the first that may still become a key, after those passed on before, which are held back
to front. -/
def pass (s : Scanner) (before : List Token) : List Token × Scanner :=
  let ready := match (s.candidates.map Candidate.token).min? with
    | some first => min (first - s.passed) s.tokens.length
    | none => s.tokens.length
  ((s.tokens.take ready).reverse ++ before, { s with tokens := s.tokens.drop ready, passed := s.passed + ready })

end Scanner

/-- The tokens of a text in order, and why there are no more if the text is not scanned to its end. -/
structure Tokens where
  list : List Token
  fault : Option Fault
deriving Repr

namespace Scanner

def run : (fuel : Nat) → (before : List Token) → Scanner → Tokens
  | 0, before, _ => ⟨before.reverse, some .malformed⟩
  | fuel + 1, before, s =>
    match s.step with
    | .error fault => ⟨before.reverse, some fault⟩
    | .ok (true, s) => ⟨before.reverse ++ s.tokens, none⟩
    | .ok (false, s) =>
      match s.dropStale with
      | .error fault => ⟨before.reverse, some fault⟩
      | .ok s =>
        let (before, s) := s.pass before
        run fuel before s

end Scanner

def tokens (text : List Char) : Tokens :=
  if !text.all isAllowed then ⟨[], some .malformed⟩
  else
    let spot : Spot := ⟨text, 0, 0, 0⟩
    let spot := if spot.here = '\ufeff' then spot.next else spot
    Scanner.run (text.length + 2) [] { spot := spot }

end Amalgam.Yaml
