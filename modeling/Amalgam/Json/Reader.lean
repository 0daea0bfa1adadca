import Amalgam.Number.Integer
import Amalgam.Value
/-!
# Reading JSON

One document per text, with blanks around it. Besides the standard's numbers the words `NaN`, `Infinity` and
`-Infinity` are read; a number with a fraction or an exponent is floating point and any other is whole. A fault is
reported with the place where reading stopped: the rest of the text at that point, from which line and column follow.

Texts hold characters and nothing else. An escape can name half a surrogate pair without the other half, which is no
character; it is read as the replacement character here, where a text of code points would keep it.
-/

namespace Amalgam.Json

open Amalgam.Number Amalgam.Text

/-- What is wrong with a text that is no document. -/
inductive Problem
  | expectingValue
  | expectingName
  | expectingColon
  | expectingComma
  | unterminated
  | controlCharacter
  | invalidEscape
  | invalidCodeEscape
  | extraData
  | byteOrderMark
deriving DecidableEq, Repr

/-- Why a text could not be read: it is malformed with `rest` still to read, or it holds too long a number, or it is
nested too deeply. -/
inductive Fault
  | malformed (problem : Problem) (rest : List Char)
  | tooManyDigits (count : Nat)
  | tooDeep
deriving DecidableEq, Repr

/-- The deepest nesting that is read. Reading calls itself once for each level, and the calls of one stack are limited, to
a thousand by default; the constant is what the callers of the reader leave of that. -/
def maxDepth : Nat := 960

def isSpace (c : Char) : Bool :=
  c = ' ' || c = '\t' || c = '\n' || c = '\r'

def skipSpace (cs : List Char) : List Char :=
  cs.dropWhile isSpace

/-! ### Texts -/

/-- The value of four hexadecimal digits at the start of a text that goes on after them. -/
def codeUnit? : List Char → Option (Nat × List Char)
  | a :: b :: c :: d :: rest =>
    if rest.isEmpty then none
    else
      match hexValue? a, hexValue? b, hexValue? c, hexValue? d with
      | some w, some x, some y, some z => some (((w * 16 + x) * 16 + y) * 16 + z, rest)
      | _, _, _, _ => none
  | _ => none

def shortEscape? (c : Char) : Option Char :=
  match c with
  | '"' => some '"'
  | '\\' => some '\\'
  | '/' => some '/'
  | 'b' => some (Char.ofNat 8)
  | 'f' => some (Char.ofNat 12)
  | 'n' => some '\n'
  | 'r' => some '\r'
  | 't' => some '\t'
  | _ => none

def isHighUnit (n : Nat) : Bool := 0xD800 ≤ n && n < 0xDC00

def isLowUnit (n : Nat) : Bool := 0xDC00 ≤ n && n < 0xE000

/-- The character of a code unit. Half a pair on its own has none and becomes the replacement character, because a text
cannot hold it. -/
def unitChar (n : Nat) : Char :=
  if isHighUnit n || isLowUnit n then Char.ofNat 0xFFFD else Char.ofNat n

/-- The character after `\u`: one unit, or two that form a pair. -/
def codeEscape (afterMark : List Char) (atMark : List Char) : Except Fault (Char × List Char) :=
  match codeUnit? afterMark with
  | none => .error (.malformed .invalidCodeEscape atMark)
  | some (high, rest) =>
    match rest with
    | '\\' :: 'u' :: second =>
      if isHighUnit high && 4 < second.length then
        match codeUnit? second with
        | none => .error (.malformed .invalidCodeEscape ('u' :: second))
        | some (low, rest') =>
          if isLowUnit low then .ok (Char.ofNat (0x10000 + (high - 0xD800) * 1024 + (low - 0xDC00)), rest')
          -- The second escape forms no pair with the first: it is read again on its own.
          else .ok (unitChar high, rest)
      else .ok (unitChar high, rest)
    | _ => .ok (unitChar high, rest)

/-- The text up to the closing quote, and what follows the quote; `opening` is the text from the opening quote on. -/
def stringBody (opening : List Char) : (fuel : Nat) → List Char → Except Fault (List Char × List Char)
  | 0, _ => .error (.malformed .unterminated opening)
  | _, [] => .error (.malformed .unterminated opening)
  | fuel + 1, c :: rest =>
    if c = '"' then .ok ([], rest)
    else if c = '\\' then
      match rest with
      | [] => .error (.malformed .unterminated opening)
      | 'u' :: more => do
        let (x, after) ← codeEscape more ('u' :: more)
        let (body, last) ← stringBody opening fuel after
        return (x :: body, last)
      | e :: more =>
        match shortEscape? e with
        | none => .error (.malformed .invalidEscape (c :: rest))
        | some x => do
          let (body, last) ← stringBody opening fuel more
          return (x :: body, last)
    else if c.toNat < 32 then .error (.malformed .controlCharacter (c :: rest))
    else do
      let (body, last) ← stringBody opening fuel rest
      return (c :: body, last)

def string (afterQuote : List Char) : Except Fault (String × List Char) := do
  let (body, rest) ← stringBody ('"' :: afterQuote) (afterQuote.length + 1) afterQuote
  return (String.ofList body, rest)

/-! ### Numbers -/

/-- The whole part of a number: a zero, or digits that start with another one. -/
def wholePart (cs : List Char) : List Char × List Char :=
  match cs with
  | '0' :: rest => (['0'], rest)
  | _ => (cs.takeWhile Char.isDigit, cs.dropWhile Char.isDigit)

def fractionPart (cs : List Char) : List Char × List Char :=
  match cs with
  | '.' :: rest =>
    let digits := rest.takeWhile Char.isDigit
    if digits.isEmpty then ([], cs) else (digits, rest.dropWhile Char.isDigit)
  | _ => ([], cs)

def exponentPart (cs : List Char) : Option Int × List Char :=
  match cs with
  | mark :: rest =>
    if mark = 'e' || mark = 'E' then
      let (negative, body) := takeSign rest
      let digits := body.takeWhile Char.isDigit
      if digits.isEmpty then (none, cs)
      else
        let n : Int := digitsValue digits
        (some (if negative then -n else n), body.dropWhile Char.isDigit)
    else (none, cs)
  | [] => (none, cs)

/-- A number; `start` is the text from its first character on. -/
def number (start : List Char) : Except Fault (Value × List Char) :=
  let (negative, body) := match start with
    | '-' :: rest => (true, rest)
    | _ => (false, start)
  let (whole, afterWhole) := wholePart body
  if whole.isEmpty then .error (.malformed .expectingValue start)
  else
    let (fraction, afterFraction) := fractionPart afterWhole
    let (power, rest) := exponentPart afterFraction
    if fraction.isEmpty && power.isNone then
      if digitLimit < whole.length then .error (.tooManyDigits whole.length)
      else
        let n : Int := digitsValue whole
        .ok (.int (if negative then -n else n), rest)
    else
      .ok (.float (.ofDecimal ⟨negative, digitsValue (whole ++ fraction), power.getD 0 - fraction.length⟩), rest)

/-! ### Values -/

def words : List (List Char × Value) :=
  [("null".toList, .null), ("true".toList, .bool true), ("false".toList, .bool false), ("NaN".toList, .float .nan),
    ("Infinity".toList, .float (.infinite false)), ("-Infinity".toList, .float (.infinite true))]

def word? (cs : List Char) : Option (Value × List Char) :=
  (words.find? fun w => w.1.isPrefixOf cs).map fun w => (w.2, cs.drop w.1.length)

mutual

/-- One value, at a nesting depth of `depth`. -/
def value : (fuel depth : Nat) → List Char → Except Fault (Value × List Char)
  | 0, _, cs => .error (.malformed .expectingValue cs)
  | fuel + 1, depth, cs =>
    match cs with
    | '"' :: rest => do
      let (s, after) ← string rest
      return (.text s, after)
    | '\x7b' :: rest =>
      if maxDepth ≤ depth then .error .tooDeep
      else
        match skipSpace rest with
        | '\x7d' :: after => .ok (.map [], after)
        | inside => do
          let (fields, after) ← members fuel (depth + 1) [] inside
          return (.map fields, after)
    | '[' :: rest =>
      if maxDepth ≤ depth then .error .tooDeep
      else
        match skipSpace rest with
        | ']' :: after => .ok (.list [], after)
        | inside => do
          let (items, after) ← elements fuel (depth + 1) inside
          return (.list items, after)
    | _ =>
      match word? cs with
      | some found => .ok found
      | none => number cs

/-- The values of a list from one of them to the closing bracket. -/
def elements : (fuel depth : Nat) → List Char → Except Fault (List Value × List Char)
  | 0, _, cs => .error (.malformed .expectingValue cs)
  | fuel + 1, depth, cs => do
    let (v, after) ← value fuel depth cs
    match skipSpace after with
    | ']' :: rest => return ([v], rest)
    | ',' :: rest =>
      let (more, last) ← elements fuel depth (skipSpace rest)
      return (v :: more, last)
    | rest => throw (.malformed .expectingComma rest)

/-- The bindings of a mapping from one of them to the closing brace, added to those before. -/
def members : (fuel depth : Nat) → Fields → List Char → Except Fault (Fields × List Char)
  | 0, _, _, cs => .error (.malformed .expectingName cs)
  | fuel + 1, depth, before, cs =>
    match cs with
    | '"' :: rest => do
      let (name, after) ← string rest
      match skipSpace after with
      | ':' :: rest' =>
        let (v, after') ← value fuel depth (skipSpace rest')
        let fields := Fields.put before (.text name) v
        match skipSpace after' with
        | '\x7d' :: rest'' => return (fields, rest'')
        | ',' :: rest'' => members fuel depth fields (skipSpace rest'')
        | rest'' => throw (.malformed .expectingComma rest'')
      | rest' => throw (.malformed .expectingColon rest')
    | _ => .error (.malformed .expectingName cs)

end

def parse (s : String) : Except Fault Value :=
  let cs := s.toList
  match cs with
  | '\ufeff' :: _ => .error (.malformed .byteOrderMark cs)
  | _ => do
    let (v, rest) ← value (2 * cs.length + 2) 0 (skipSpace cs)
    match skipSpace rest with
    | [] => return v
    | extra => throw (.malformed .extraData extra)

/-! ### Messages -/

def Problem.message : Problem → String
  | .expectingValue => "Expecting value"
  | .expectingName => "Expecting property name enclosed in double quotes"
  | .expectingColon => "Expecting ':' delimiter"
  | .expectingComma => "Expecting ',' delimiter"
  | .unterminated => "Unterminated string starting at"
  | .controlCharacter => "Invalid control character at"
  | .invalidEscape => "Invalid \\escape"
  | .invalidCodeEscape => "Invalid \\uXXXX escape"
  | .extraData => "Extra data"
  | .byteOrderMark => "Unexpected UTF-8 BOM (decode using utf-8-sig)"

/-- A place in a text: its line and column, both from one, and its offset from zero. -/
def place (s : String) (rest : List Char) : String :=
  let offset := s.toList.length - rest.length
  let before := s.toList.take offset
  let line := before.count '\n' + 1
  let column := (before.reverse.takeWhile (· != '\n')).length + 1
  "line " ++ numeral line ++ " column " ++ numeral column ++ " (char " ++ numeral offset ++ ")"

end Amalgam.Json
