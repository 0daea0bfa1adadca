import Amalgam.Text.Charts.Chinese
import Amalgam.Text.Charts.Korean
import Amalgam.Text.Multibyte.Japanese
import Amalgam.Text.Pages
/-!
# Encodings with escape sequences

Text of seven bits in several character sets. An escape sequence designates a set, to one of three slots. The first is
in use, or the second after a shift out; the third is used for one character at a time. Any other escape sequence is
text up to its end.

Written is only what has to be: a set is designated when a character of it comes, and ASCII when a character of ASCII
comes. A text ends in whatever set its last character has.
-/

namespace Amalgam.Text.Multibyte

open Charts

/-- The character sets that can be designated. -/
inductive CharacterSet
  | ascii
  | jisRoman
  | jisKana
  | latin1
  | greek
  | jisX0208
  | jisX0208Older
  | jisX0212
  | jisX0213 (e : Edition)
  | jisX0213Second
  | ksX1001
  | gb2312
deriving DecidableEq, Repr

namespace CharacterSet

/-- Whether its characters have two bytes. -/
def isWide : CharacterSet → Bool
  | ascii | jisRoman | jisKana | latin1 | greek => false
  | _ => true

/-- The byte that names it in an escape sequence. -/
def final : CharacterSet → UInt8
  | ascii => 0x42
  | jisRoman => 0x4A
  | jisKana => 0x49
  | latin1 => 0x41
  | greek => 0x46
  | jisX0208 => 0x42
  | jisX0208Older => 0x40
  | jisX0212 => 0x44
  | jisX0213 .first => 0x4F
  | jisX0213 .revised => 0x51
  | jisX0213Second => 0x50
  | ksX1001 => 0x43
  | gb2312 => 0x41

/-- What two bytes stand for; a code that stands for nothing is an error of both. -/
def readWide (s : CharacterSet) (a b : UInt8) : Option (List Char) := do
  let place ← sevenBits.place? a b
  match s with
  | jisX0208 | jisX0208Older => (Charts.jisX0208.char? place).map ([·])
  | jisX0212 => (Charts.jisX0212.char? place).map ([·])
  | jisX0213 e =>
    match e.readFirst place with
    | .chars cs _ _ => some cs
    | _ => none
  | jisX0213Second => (Charts.jisX0213Second.char? place).map ([·])
  | ksX1001 => (Charts.ksX1001.char? place).map ([·])
  | gb2312 => (Charts.gb2312.char? place).map ([·])
  | _ => none

/-- What one byte stands for in the first two slots. -/
def readNarrow (s : CharacterSet) (b : UInt8) : Option Char :=
  match s with
  | ascii => asciiChar? b
  | jisRoman => if b = 0x5C then some '¥' else if b = 0x7E then some '‾' else asciiChar? b
  | jisKana => kanaChar? (b ^^^ 0x80)
  | _ => none

/-- The signs that later joined the upper half of the Greek set. -/
def laterGreek : List UInt8 := [0xA4, 0xA5, 0xAA]

/-- What one byte stands for in the third slot. -/
def readThird (s : CharacterSet) (b : UInt8) : Option Char :=
  let upper := b ^^^ 0x80
  match s with
  | ascii => asciiChar? b
  | latin1 => if b < 0x80 then some (Char.ofNat upper.toNat) else none
  | greek =>
    if upper < 0xA0 then some (Char.ofNat upper.toNat)
    else if laterGreek.contains upper then none
    else Page.iso88597.chars.getD upper.toNat none
  | _ => none

/-- The bytes of a character in the set. In JIS X 0213 the character stands for itself, without a mark. -/
def bytes? (edition : Edition) (s : CharacterSet) (c : Char) : Option (List UInt8) :=
  let coded (second : Bool) : Option Nat :=
    (edition.code? c).bind fun k => if k.second = second then some k.place else none
  match s with
  | jisRoman => (romanByte? c).map ([·])
  | jisKana => (kanaByte? c).map fun b => [b ^^^ 0x80]
  | jisX0208 | jisX0208Older => (Charts.jisX0208.place? c).bind (jisBytes? sevenBits)
  | jisX0212 => (Charts.jisX0212.place? c).bind (jisBytes? sevenBits)
  | jisX0213 _ => (coded false).bind (jisBytes? sevenBits)
  | jisX0213Second => (coded true).bind (jisBytes? sevenBits)
  | ksX1001 => (Charts.ksX1001.place? c).bind (jisBytes? sevenBits)
  | gb2312 => (Charts.gb2312.place? c).bind (jisBytes? sevenBits)
  | ascii | latin1 | greek => none

end CharacterSet

/-- An encoding with escape sequences. -/
structure Iso2022 where
  /-- The sets besides ASCII, in the order in which they are tried for a character. -/
  sets : List CharacterSet
  /-- The edition of JIS X 0213 whose pairs are written. -/
  edition : Option Edition := none
  /-- Whether shifting is in use; what is not ASCII is then written in the second slot. -/
  shifts : Bool := false
  /-- Whether the third slot is in use. -/
  third : Bool := false
  /-- Whether a designation may have an announcement before it. -/
  announces : Bool := true

namespace Iso2022

/-- What is designated and in use. -/
structure State where
  first : CharacterSet := .ascii
  second : CharacterSet := .ascii
  third : CharacterSet := .ascii
  shifted : Bool := false
  /-- Inside an escape sequence that is text. -/
  passing : Bool := false

def escape : UInt8 := 0x1B

/-- The bytes that end an escape sequence. -/
def isFinal (b : UInt8) : Bool :=
  0x40 ≤ b && b ≤ 0x5A

/-- The length of the escape sequence of which `i` bytes have passed, zero when it is too long; nothing when the bytes end
first. An announcement takes `skip` bytes that end nothing. -/
def escapeLength (x : Iso2022) : (skip i : Nat) → List UInt8 → Option Nat
  | skip, i, [] => if 16 ≤ i + skip then some 0 else none
  | skip + 1, i, _ :: rest => x.escapeLength skip (i + 1) rest
  | 0, i, b :: rest =>
    if 16 ≤ i then some 0
    else if isFinal b then some (i + 1)
    else
      let announced := x.announces && b = 0x26 && rest.head? = some 0x40
      x.escapeLength (if announced then 2 else 0) (i + 1) rest

/-- The set that a designation names. -/
def set? (x : Iso2022) (wide : Bool) (final : UInt8) : Option CharacterSet :=
  (.ascii :: x.sets).find? fun s => s.isWide = wide && s.final = final

/-- What an escape sequence designates. -/
def designated (x : Iso2022) (state : State) (bs : List UInt8) : Option State :=
  match bs with
  | [_, 0x24, final] => (x.set? true final).map fun s => { state with first := s }
  | [_, 0x28, final] => (x.set? false final).map fun s => { state with first := s }
  | [_, 0x29, final] => (x.set? false final).map fun s => { state with second := s }
  | [_, 0x2E, final] => if x.third then (x.set? false final).map fun s => { state with third := s } else none
  | [_, 0x24, 0x28, final] => (x.set? true final).map fun s => { state with first := s }
  | [_, 0x24, 0x29, final] => (x.set? true final).map fun s => { state with second := s }
  | [_, _, _, 0x1B, 0x24, 0x42] =>
    if x.announces then (x.set? true 0x42).map fun s => { state with first := s } else none
  | _ => none

def readEscape (x : Iso2022) (state : State) (rest : List UInt8) : Reading State :=
  match rest with
  | [] => .incomplete
  | next :: more =>
    if [0x28, 0x29, 0x24, 0x2E, 0x26].contains next then
      match x.escapeLength 0 1 rest with
      | none => .incomplete
      | some 0 => .illegal 1
      | some size =>
        match x.designated state ((escape :: rest).take size) with
        | some after => .chars [] size after
        | none => .illegal size
    else if x.third && next = 0x4E then
      match more with
      | [] => .incomplete
      | b :: _ =>
        match state.third.readThird b with
        | some c => .chars [c] 3 state
        | none => .illegal 3
    else .chars [Char.ofNat escape.toNat] 1 { state with passing := true }

def read (x : Iso2022) (state : State) (b : UInt8) (rest : List UInt8) : Reading State :=
  let itself (after : State) : Reading State := .chars [Char.ofNat b.toNat] 1 after
  if state.passing then itself { state with passing := !isFinal b }
  else if b = escape then x.readEscape state rest
  else if x.shifts && (b = 0x0E || b = 0x0F) then .chars [] 1 { state with shifted := b = 0x0E }
  else if b = 0x0A then itself { state with shifted := false }
  else if b < 0x20 then itself state
  else if 0x80 ≤ b then .illegal 1
  else
    let s := if state.shifted then state.second else state.first
    if s.isWide then
      match rest with
      | [] => .incomplete
      | next :: _ =>
        match s.readWide b next with
        | some cs => .chars cs 2 state
        | none => .illegal 2
    else
      match s.readNarrow b with
      | some c => .chars [c] 1 state
      | none => .illegal 1

/-- The escape sequence that designates a set. -/
def designation (x : Iso2022) (s : CharacterSet) : List UInt8 :=
  match s.isWide, x.shifts with
  | false, false => [escape, 0x28, s.final]
  | false, true => [escape, 0x29, s.final]
  | true, false => if s = .jisX0208 then [escape, 0x24, s.final] else [escape, 0x24, 0x28, s.final]
  | true, true => [escape, 0x24, 0x29, s.final]

/-- Writes a code of a set, after a designation and a shift if the set is not the one in use. -/
def writeCode (x : Iso2022) (state : State) (s : CharacterSet) (code : List UInt8) (size : Nat) : Writing State :=
  if x.shifts then
    let before := if state.second = s then [] else x.designation s
    let out := if state.shifted then [] else [0x0E]
    .bytes (before ++ out ++ code) size { state with second := s, shifted := true }
  else
    let before := if state.first = s then [] else x.designation s
    .bytes (before ++ code) size { state with first := s }

def writeAscii (state : State) (b : UInt8) : Writing State :=
  let before := if state.first = .ascii then [] else [escape, 0x28, CharacterSet.ascii.final]
  let back := if state.shifted then [0x0F] else []
  .bytes (before ++ back ++ [b]) 1 { state with first := .ascii, shifted := false }

def write (x : Iso2022) (state : State) (c : Char) (rest : List Glyph) : Writing State :=
  match asciiByte? c with
  | some b => writeAscii state b
  | none =>
    let edition := x.edition.getD .revised
    let alone : Writing State :=
      match x.sets.findSome? fun s => (s.bytes? edition c).map fun code => (s, code) with
      | some (s, code) => x.writeCode state s code 1
      | none => .illegal
    if x.edition.isNone || !canCarryMark c then alone
    else
      match rest with
      | [] => .incomplete
      | next :: _ =>
        match (markedPlace? c next).bind (jisBytes? sevenBits) with
        | some code => x.writeCode state (.jisX0213 edition) code 2
        | none => alone

def scheme (x : Iso2022) : Scheme where
  Shift := State
  start := {}
  read := x.read
  write := x.write

/-! ### The encodings -/

def kr : Iso2022 := { sets := [.ksX1001], shifts := true, announces := false }

def jp : Iso2022 := { sets := [.jisX0208, .jisRoman, .jisX0208Older] }

def jp1 : Iso2022 := { sets := [.jisX0208, .jisX0212, .jisRoman, .jisX0208Older] }

def jp2 : Iso2022 where
  sets := [.jisX0208, .jisX0212, .ksX1001, .gb2312, .jisRoman, .jisX0208Older, .latin1, .greek]
  third := true

def jpExt : Iso2022 := { sets := [.jisX0208, .jisX0212, .jisRoman, .jisKana, .jisX0208Older] }

def jp2004 (e : Edition) : Iso2022 where
  sets := [.jisX0208, .jisX0213 e, .jisX0213Second]
  edition := some e

end Iso2022

end Amalgam.Text.Multibyte
