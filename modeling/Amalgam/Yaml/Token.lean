import Amalgam.Calendar
import Amalgam.Number.Integer
/-!
# Tokens of a YAML document

The units that a document is made of, and the cursor that scanning moves through its text. A cursor knows the line,
the column and the number of characters before it, because indentation and the length of keys matter. Past the end of
the text every character reads as NUL, which no text contains.
-/

namespace Amalgam.Yaml

/-- Why a text cannot be loaded: it is not well formed, or something in it has no value. -/
inductive Fault
  | malformed
  | integer (fault : Number.IntegerFault)
  | emptyNumeral
  | notReal (text : String)
  | hugePlace
  | notTruth (word : String)
  | notTimestamp
  | notText (kind : String)
  | calendar (fault : CalendarFault)
  | characterCode
  | hugeCharacterCode
  | tooDeep
deriving DecidableEq, Repr

inductive Token
  | streamEnd
  | versionDirective (major : Nat)
  | tagDirective (handle start : String)
  | otherDirective
  | documentStart
  | documentEnd
  | blockSequenceStart
  | blockMappingStart
  | blockEnd
  | flowSequenceStart
  | flowSequenceEnd
  | flowMappingStart
  | flowMappingEnd
  | key
  | value
  | blockEntry
  | flowEntry
  | alias (name : String)
  | anchor (name : String)
  | tag (handle : Option String) (suffix : String)
  | scalar (text : List Char) (plain : Bool)
deriving DecidableEq, Repr

/-- A place in the text. -/
structure Spot where
  rest : List Char
  index : Nat := 0
  line : Nat := 0
  column : Nat := 0
deriving DecidableEq, Repr

/-! ### Character classes -/

/-- Characters that end a line. -/
def isBreak (c : Char) : Bool :=
  c = '\n' || c = '\r' || c = '\x85' || c = '\u2028' || c = '\u2029'

/-- A line end or the end of the text. -/
def isBreakOrEnd (c : Char) : Bool :=
  isBreak c || c = '\x00'

/-- What may follow an indicator: a blank, a line end or the end of the text. -/
def isGap (c : Char) : Bool :=
  isBreakOrEnd c || c = ' ' || c = '\t'

/-- A gap other than a tab. -/
def isPlainGap (c : Char) : Bool :=
  isBreakOrEnd c || c = ' '

/-- Letters, digits, hyphen and underscore. -/
def isNameChar (c : Char) : Bool :=
  c.isAlphanum || c = '-' || c = '_'

/-- Characters that a document may contain. -/
def isAllowed (c : Char) : Bool :=
  let n := c.toNat
  n = 9 || n = 10 || n = 13 || (32 ≤ n && n ≤ 126) || n = 0x85 || (0xA0 ≤ n && n ≤ 0xD7FF) ||
    (0xE000 ≤ n && n ≤ 0xFFFD) || 0x10000 ≤ n

namespace Spot

/-- The character `k` places on. -/
def peek (s : Spot) (k : Nat) : Char :=
  (s.rest.drop k).headD '\x00'

def here (s : Spot) : Char :=
  s.rest.headD '\x00'

def next (s : Spot) : Spot :=
  match s.rest with
  | [] => s
  | c :: rest =>
    if c = '\n' || c = '\x85' || c = '\u2028' || c = '\u2029' || (c = '\r' && rest.head? != some '\n') then
      ⟨rest, s.index + 1, s.line + 1, 0⟩
    else ⟨rest, s.index + 1, s.line, if c = '\ufeff' then s.column else s.column + 1⟩

def forward (s : Spot) : Nat → Spot
  | 0 => s
  | n + 1 => s.next.forward n

def takeWhile (s : Spot) (p : Char → Bool) : List Char × Spot :=
  let cs := s.rest.takeWhile p
  (cs, s.forward cs.length)

def skipWhile (s : Spot) (p : Char → Bool) : Spot :=
  (s.takeWhile p).2

/-- A line end, if one stands here: what it counts as, and the place after it. -/
def lineBreak (s : Spot) : List Char × Spot :=
  match s.rest with
  | '\r' :: '\n' :: _ => (['\n'], s.forward 2)
  | c :: _ =>
    if c = '\n' || c = '\r' || c = '\x85' then (['\n'], s.next)
    else if c = '\u2028' || c = '\u2029' then ([c], s.next)
    else ([], s)
  | [] => ([], s)

/-- Three points or hyphens followed by a gap. -/
def atDocumentMark (s : Spot) : Bool :=
  (s.rest.take 3 = ['-', '-', '-'] || s.rest.take 3 = ['.', '.', '.']) && isGap (s.peek 3)

/-- Blanks and a comment up to the end of the line, and the line end itself. -/
def ignoredLine (s : Spot) : Except Fault Spot :=
  let s := s.skipWhile (· = ' ')
  let s := if s.here = '#' then s.skipWhile fun c => !isBreakOrEnd c else s
  if isBreakOrEnd s.here then .ok s.lineBreak.2 else .error .malformed

end Spot

end Amalgam.Yaml
