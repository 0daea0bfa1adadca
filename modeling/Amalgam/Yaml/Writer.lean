import Amalgam.Value
import Amalgam.Yaml.Resolve
import Amalgam.Yaml.Token
/-!
# Writing YAML

A value in block style: one line per binding, each level two blanks further in, keys in order. A text is written plain
when it would be read back as that text, else in single quotes, and in double quotes when it holds anything outside
printable ASCII. A line that has passed column eighty ends at the next single blank. The form is that of PyYAML 6.0.
-/

namespace Amalgam.Yaml

open Amalgam.Number Amalgam.Text

/-! ### The pen -/

/-- What has been written, last character first, and what the next stroke depends on. -/
structure Pen where
  written : List Char := []
  column : Nat := 0
  /-- The last thing written was a blank or a line end. -/
  spaced : Bool := true
  /-- Only indentation has been written on this line. -/
  indenting : Bool := true

namespace Pen

def put (p : Pen) (cs : List Char) : Pen :=
  { p with written := cs.reverse ++ p.written, column := p.column + cs.length }

def newLine (p : Pen) (lineEnd : Char) : Pen :=
  { written := lineEnd :: p.written, column := 0, spaced := true, indenting := true }

/-- Goes to an indentation, on a new line unless this line has nothing else. -/
def indent (p : Pen) (width : Nat) : Pen :=
  let p :=
    if !p.indenting || width < p.column || (p.column = width && !p.spaced) then p.newLine '\n' else p
  if p.column < width then { p.put (List.replicate (width - p.column) ' ') with spaced := true } else p

/-- An indicator, after a blank if it needs one. -/
def indicator (p : Pen) (mark : List Char) (needsSpace spaced indenting : Bool) : Pen :=
  let q := p.put (if p.spaced || !needsSpace then mark else ' ' :: mark)
  { q with spaced := spaced, indenting := p.indenting && indenting }

/-- Goes on in the middle of a scalar. -/
def inside (p : Pen) : Pen :=
  { p with spaced := false, indenting := false }

end Pen

/-! ### Choosing a style -/

/-- How a text can be written. -/
structure Analysis where
  multiline : Bool
  plain : Bool
  singleQuoted : Bool

/-- Facts about one character and its neighbours: previous, itself, next; nothing at the ends. -/
structure Around where
  before : Option Char
  char : Char
  after : Option Char

def withNeighbours : Option Char → List Char → List Around
  | _, [] => []
  | before, c :: rest => ⟨before, c, rest.head?⟩ :: withNeighbours (some c) rest

def isGap? (c : Option Char) : Bool :=
  match c with
  | none => true
  | some c => isGap c

def isWriterBreak (c : Char) : Bool :=
  c = '\n' || c = '\x85' || c = '\u2028' || c = '\u2029'

/-- A character that would be taken for an indicator where it stands in a block. -/
def isIndicator (a : Around) : Bool :=
  if a.before.isNone then
    "#,[]\x7b\x7d&*!|>'\"%@`".toList.contains a.char || ("?:-".toList.contains a.char && isGap? a.after)
  else (a.char = ':' && isGap? a.after) || (a.char = '#' && a.before.any isGap)

/-- A character that only double quotes can hold. -/
def isUnprintable (c : Char) : Bool :=
  !(c = '\n' || (32 ≤ c.toNat && c.toNat ≤ 126))

def analyze (text : List Char) : Analysis :=
  if text.isEmpty then ⟨false, true, true⟩
  else
    let around := withNeighbours none text
    let mark := text.take 3 = ['-', '-', '-'] || text.take 3 = ['.', '.', '.']
    let indicators := mark || around.any isIndicator
    let breaks := text.any isWriterBreak
    let special := text.any isUnprintable
    let edge (c : Char) : Bool := c = ' ' || isWriterBreak c
    let edges := text.head?.any edge || text.getLast?.any edge
    let breakSpace := around.any fun a => a.char = ' ' && a.before.any isWriterBreak
    let spaceBreak := around.any fun a => isWriterBreak a.char && a.before = some ' '
    ⟨breaks, !(indicators || breaks || special || edges || breakSpace || spaceBreak),
      !(breakSpace || spaceBreak || special)⟩

/-! ### Scalars -/

/-- The width after which a line ends at the next chance. -/
def bestWidth : Nat := 80

/-- A run of characters in a scalar, and what kind of run it is. -/
inductive Run
  | spaces (n : Nat)
  | breaks (cs : List Char)
  | word (cs : List Char)

def runs (text : List Char) : List Run :=
  let kind (c : Char) : Nat := if c = ' ' then 0 else if isWriterBreak c then 1 else 2
  (text.splitBy fun a b => kind a = kind b).map fun cs =>
    match cs.head?.map kind with
    | some 0 => .spaces cs.length
    | some 1 => .breaks cs
    | _ => .word cs

/-- A plain scalar, with a blank before it if needed. -/
def writePlain (split : Bool) (width : Nat) (p : Pen) (text : List Char) : Pen :=
  if text.isEmpty then p
  else
    let p := if p.spaced then p else p.put [' ']
    (runs text).foldl (fun p run =>
      match run with
      | .spaces n =>
        if n = 1 && bestWidth < p.column && split then (p.indent width).inside else p.put (List.replicate n ' ')
      | .breaks cs => p.put cs
      | .word cs => p.put cs) p.inside

/-- The runs of a text, each with a mark for the first and the last one. -/
def markedRuns (text : List Char) : List (Run × Bool × Bool) :=
  let rs := runs text
  rs.zipIdx.map fun (r, i) => (r, i = 0, i + 1 = rs.length)

def writeSingleQuoted (split : Bool) (width : Nat) (p : Pen) (text : List Char) : Pen :=
  let p := p.indicator ['\''] true false false
  let p := (markedRuns text).foldl (fun p (run, first, last) =>
    match run with
    | .spaces n =>
      if n = 1 && bestWidth < p.column && split && !first && !last then p.indent width
      else p.put (List.replicate n ' ')
    | .breaks cs =>
      let p := if cs.head? = some '\n' then p.newLine '\n' else p
      (cs.foldl Pen.newLine p).indent width
    | .word cs => p.put (substitute '\'' ['\'', '\''] cs)) p
  p.indicator ['\''] false false false

def letterEscapes : List (Nat × Char) :=
  [(0, '0'), (7, 'a'), (8, 'b'), (9, 't'), (10, 'n'), (11, 'v'), (12, 'f'), (13, 'r'), (27, 'e'), (34, '"'), (92, '\\'),
    (0x85, 'N'), (0xA0, '_'), (0x2028, 'L'), (0x2029, 'P')]

def upperHex (width n : Nat) : List Char :=
  (hex width n).map Char.toUpper

/-- The escape of a character, unless it stands for itself between double quotes. -/
def escape? (c : Char) : Option (List Char) :=
  let n := c.toNat
  match letterEscapes.lookup n with
  | some letter => some ['\\', letter]
  | none =>
    if 32 ≤ n && n ≤ 126 then none
    else if n < 0x100 then some ('\\' :: 'x' :: upperHex 2 n)
    else if n < 0x10000 then some ('\\' :: 'u' :: upperHex 4 n)
    else some ('\\' :: 'U' :: upperHex 8 n)

/-- Ends a line inside double quotes; a blank that starts the next line is escaped. -/
def breakLine (width : Nat) (p : Pen) (next : Option Char) : Pen :=
  let p := ((p.put ['\\']).indent width).inside
  if next = some ' ' then p.put ['\\'] else p

/-- The inside of double quotes from position `i` of `size` on; `held` is the word not yet written, last character
first. -/
def doubleQuotedFrom (split : Bool) (width size : Nat) : (i : Nat) → (held : List Char) → Pen → List Char → Pen
  | _, held, p, [] => p.put held.reverse
  | i, held, p, c :: rest =>
    match escape? c with
    | some code =>
      let p := (p.put held.reverse).put code
      if 0 < i && i + 1 < size && bestWidth + 1 < p.column && split then
        doubleQuotedFrom split width size (i + 1) [] (breakLine width p rest.head?) rest
      else doubleQuotedFrom split width size (i + 1) [] p rest
    | none =>
      if 0 < i && i + 1 < size && (c = ' ' || held.isEmpty) && bestWidth < p.column + held.length && split then
        doubleQuotedFrom split width size (i + 1) [c] (breakLine width (p.put held.reverse) (some c)) rest
      else doubleQuotedFrom split width size (i + 1) (c :: held) p rest

def writeDoubleQuoted (split : Bool) (width : Nat) (p : Pen) (text : List Char) : Pen :=
  let p := p.indicator ['"'] true false false
  (doubleQuotedFrom split width text.length 0 [] p text).indicator ['"'] false false false

def scalarForm : Value → Option (List Char × String)
  | .null => some ("null".toList, "null")
  | .bool b => some ((if b then "true" else "false").toList, "bool")
  | .int n => some ((numeral n).toList, "int")
  | .float .nan => some (".nan".toList, "float")
  | .float (.infinite negative) => some ((if negative then "-.inf" else ".inf").toList, "float")
  | .float x =>
    let cs := x.chars
    some (if cs.contains '.' then cs else substitute 'e' ['.', '0', 'e'] cs, "float")
  | .text s => some (s.toList, "str")
  | .date d => some (d.shown.toList, "timestamp")
  | .moment m => some (m.shown.toList, "timestamp")
  | _ => none

/-- A scalar in the style it needs; as a key it stays on one line. -/
def writeScalar (asKey : Bool) (width : Nat) (p : Pen) (text : List Char) (kind : String) : Pen :=
  let analysis := analyze text
  let implicit := implicitTag (String.ofList text) = standard kind
  if implicit && !(asKey && (text.isEmpty || analysis.multiline)) && analysis.plain then writePlain (!asKey) width p text
  else if analysis.singleQuoted && !(asKey && analysis.multiline) then writeSingleQuoted (!asKey) width p text
  else writeDoubleQuoted (!asKey) width p text

/-! ### Collections -/

/-- Keys in order when they are all texts, or all numbers. -/
def sortedFields (fields : List (Value × Value)) : List (Value × Value) :=
  let text? : Value → Option String
    | .text s => some s
    | _ => none
  let int? : Value → Option Int
    | .int n => some n
    | .bool b => some (if b then 1 else 0)
    | _ => none
  if fields.all fun f => (text? f.1).isSome then
    fields.mergeSort fun a b => !((text? b.1).getD "" < (text? a.1).getD "")
  else if fields.all fun f => (int? f.1).isSome then
    fields.mergeSort fun a b => (int? a.1).getD 0 ≤ (int? b.1).getD 0
  else fields

/-- A key that fits on one line before its colon. -/
def isSimpleKey (key : Value) : Bool :=
  match scalarForm key with
  | some (text, kind) =>
    !text.isEmpty && !(analyze text).multiline && text.length + 2 + kind.length < 128
  | none => false

mutual

/-- A value at an indentation; `inMapping` tells that it is the value of a key. -/
def writeValue (inMapping : Bool) (width : Nat) (p : Pen) : Value → Pen
  | .list items =>
    if items.isEmpty then (p.indicator ['['] true true false).indicator [']'] false false false
    else writeItems (if inMapping && !p.indenting then width else width + 2) p items
  | .map fields =>
    if fields.isEmpty then (p.indicator ['\x7b'] true true false).indicator ['\x7d'] false false false
    else writeFields (width + 2) p fields
  | .null => writeScalar false (width + 2) p "null".toList "null"
  | v =>
    match scalarForm v with
    | some (text, kind) => writeScalar false (width + 2) p text kind
    | none => p

def writeItems (width : Nat) (p : Pen) : List Value → Pen
  | [] => p
  | v :: rest => writeItems width (writeValue false width ((p.indent width).indicator ['-'] true false true) v) rest

def writeFields (width : Nat) (p : Pen) : List (Value × Value) → Pen
  | [] => p
  | (k, v) :: rest =>
    let p := p.indent width
    let p :=
      match scalarForm k with
      | some (text, kind) =>
        if isSimpleKey k then
          writeValue true width ((writeScalar true (width + 2) p text kind).indicator [':'] false false false) v
        else
          let p := writeScalar false (width + 2) (p.indicator ['?'] true false true) text kind
          writeValue true width ((p.indent width).indicator [':'] true false true) v
      | none => p
    writeFields width p rest

end

mutual

/-- The value with every mapping's keys in order. -/
def sorted : Value → Value
  | .list items => .list (sortedItems items)
  | .map fields => .map (sortedFields (sortedPairs fields))
  | v => v

def sortedItems : List Value → List Value
  | [] => []
  | v :: rest => sorted v :: sortedItems rest

def sortedPairs : List (Value × Value) → List (Value × Value)
  | [] => []
  | (k, v) :: rest => (k, sorted v) :: sortedPairs rest

end

def write (fields : Fields) : String :=
  match sorted (.map fields) with
  | .map fs =>
    if fs.isEmpty then "\x7b\x7d\n"
    else String.ofList ((writeFields 0 {} fs).indent 0).written.reverse
  | _ => ""

end Amalgam.Yaml
