import Amalgam.Text.Charts.Japanese
import Amalgam.Text.Scheme
/-!
# Japanese encodings

EUC-JP and Shift JIS reach the same chart by different bytes, both with the half-width letters besides, and EUC-JP the
supplement, too. A vendor's version of Shift JIS adds signs, ideographs and private characters.

The later standard, JIS X 0213, has two planes, and in the first of them some places stand for a character with a mark;
its first edition has ten ideographs less. In EUC the places that it leaves free in its second plane are those of the
old supplement.
-/

namespace Amalgam.Text.Multibyte

open Charts

/-! ### Charts in EUC and Shift JIS -/

/-- The half-width letters in EUC come behind this byte. -/
def kanaMark : UInt8 := 0x8E

/-- The supplement and the second plane come behind this byte. -/
def supplementMark : UInt8 := 0x8F

def shiftJisGrid : Grid := [⟨[(0x81, 0x9F), (0xE0, 0xFC)], [(0x40, 0x7E), (0x80, 0xFC)]⟩]

def jisBytes? (g : Grid) (place : Nat) : Option (List UInt8) :=
  (g.code? place).map fun (a, b) => [a, b]

/-- Reads what the bytes of a code in EUC stand for, behind the mark of the supplement and without it. -/
def readEuc (first second : Nat → Reading Unit) (b : UInt8) (rest : List UInt8) : Reading Unit :=
  match asciiChar? b with
  | some c => .chars [c] 1 ()
  | none =>
    if b = kanaMark then
      match rest with
      | [] => .incomplete
      | next :: _ => .ofChar? 2 (kanaChar? next)
    else if b = supplementMark then
      match rest with
      | next :: last :: _ => ((highBits.place? next last).map second).getD (.illegal 1)
      | _ => .incomplete
    else
      match rest with
      | [] => .incomplete
      | next :: _ => ((highBits.place? b next).map first).getD (.illegal 1)

def eucKana? (c : Char) : Option (List UInt8) :=
  (kanaByte? c).map fun b => [kanaMark, b]

def eucSupplement? (place? : Option Nat) : Option (List UInt8) :=
  (place?.bind (jisBytes? highBits)).map (supplementMark :: ·)

/-! ### JIS X 0208 -/

def eucJpScheme : Scheme :=
  .plain (readEuc (fun place => .ofChar? 2 (jisX0208.char? place)) fun place => .ofChar? 3 (jisX0212.char? place))
    fun c _ => .ofBytes? ((((asciiByte? c).or (romanByte? c)).map fun b => [b]).or ((eucKana? c).or
      (((jisX0208.place? c).bind (jisBytes? highBits)).or (eucSupplement? (jisX0212.place? c)))))

/-- The first bytes of the rows that the chart has in Shift JIS. -/
def beginsShiftJis (b : UInt8) : Bool :=
  0x81 ≤ b && b ≤ 0x9F || 0xE0 ≤ b && b ≤ 0xEA

def shiftJisScheme : Scheme :=
  .ofPairs (fun b => (asciiChar? b).or (kanaChar? b)) (fun c => (asciiByte? c).or ((romanByte? c).or (kanaByte? c)))
    beginsShiftJis (.ofChart shiftJisGrid jisX0208)

/-- Bytes that the vendor leaves without a meaning stand for private characters. -/
def vendorChar? (b : UInt8) : Option Char :=
  if b = 0x80 then some '\u0080' else if b = 0xA0 then some '\uf8f0'
  else if 0xFD ≤ b then some (Char.ofNat (0xF8F1 + (b.toNat - 0xFD))) else none

def vendorByte? (c : Char) : Option UInt8 :=
  [0x80, 0xA0, 0xFD, 0xFE, 0xFF].find? fun b => vendorChar? b = some c

def vendorUser : Repertoire := .beyond 0xE000 1880 []

def vendorUserGrid : Grid := [⟨[(0xF0, 0xF9)], [(0x40, 0x7E), (0x80, 0xFC)]⟩]

def cp932Scheme : Scheme :=
  .ofPairs (fun b => (asciiChar? b).or ((kanaChar? b).or (vendorChar? b)))
    (fun c => (asciiByte? c).or ((kanaByte? c).or (vendorByte? c))) (fun _ => true)
    (.orElse (.patched (.ofChart shiftJisGrid jisVendor) (.ofChart shiftJisGrid jisX0208))
      (.ofChart vendorUserGrid vendorUser))

/-! ### JIS X 0213 -/

/-- The editions of JIS X 0213. -/
inductive Edition
  | first
  | revised
deriving DecidableEq, Repr

namespace Edition

/-- The places of the first plane that the revision fills. -/
def added : List Nat :=
  [1222, 1409, 4375, 4417, 7808, 8831, 8832, 8833, 8834, 8835]

def lacks (e : Edition) (place : Nat) : Bool :=
  e = .first && added.contains place

/-- The place in the second plane of an ideograph whose form the revision changed. -/
def changed : Nat := 8674

/-- The place of a character in the first plane. -/
def firstPlace? (c : Char) : Option Nat :=
  (jisX0208.place? c).or (jisX0213.place? c)

/-- Characters that the first edition does not have, so that no other code is tried for them. -/
def refuses (e : Edition) (c : Char) : Bool :=
  e = .first && c = '\u9b1c' || (firstPlace? c).any e.lacks

/-- What stands at a place of the first plane; a place that only the revision fills is an error of two bytes. -/
def readFirst (e : Edition) (place : Nat) : Reading Unit :=
  if e.lacks place then .illegal 2
  else
    match (jisX0208.char? place).or (jisX0213.char? place), jisX0213Pairs.lookup place with
    | some c, _ => .chars [c] 2 ()
    | none, some (c, mark) => .chars [c, mark] 2 ()
    | none, none => .illegal 1

def second? (e : Edition) (place : Nat) : Option Char :=
  if e = .first && place = changed then some '\u9b1d' else jisX0213Second.char? place

/-- A code of JIS X 0213: a place, and whether it is in the second plane. -/
structure Code where
  second : Bool
  place : Nat

/-- The code of a character by itself. -/
def code? (e : Edition) (c : Char) : Option Code :=
  if e.refuses c then none
  else if e = .first && c = '\u9b1d' then some ⟨true, changed⟩
  else ((firstPlace? c).map (⟨false, ·⟩)).or ((jisX0213Second.place? c).map (⟨true, ·⟩))

end Edition

/-- Whether a character can carry a mark in JIS X 0213. -/
def canCarryMark (c : Char) : Bool :=
  jisX0213Pairs.any fun (_, letter, _) => letter = c

/-- The place of a character with the mark after it. -/
def markedPlace? (c : Char) (next : Glyph) : Option Nat :=
  (jisX0213Pairs.find? fun (_, letter, mark) => letter = c && next = .char mark).map Prod.fst

/-- Writes a character that may carry a mark: it waits for the glyph after it. -/
def writeMarked (bytes? : Nat → Option (List UInt8)) (alone : Char → Option (List UInt8)) (c : Char)
    (rest : List Glyph) : Writing Unit :=
  if !canCarryMark c then .ofBytes? (alone c)
  else
    match rest with
    | [] => .incomplete
    | next :: _ =>
      match (markedPlace? c next).bind bytes? with
      | some bs => .bytes bs 2 ()
      | none => .ofBytes? (alone c)

/-- The full-width tilde has the place of the tilde in EUC, where that is one of ASCII. -/
def tildePlace : Nat := 111

def eucJis2004Scheme (e : Edition) : Scheme :=
  let first := fun place => if place = tildePlace then .chars ['\uff5e'] 2 () else e.readFirst place
  let second := fun place => .ofChar? 3 ((e.second? place).or (jisX0212.char? place))
  let code? : Edition.Code → Option (List UInt8) := fun k =>
    if k.second then eucSupplement? (some k.place) else jisBytes? highBits k.place
  .plain (readEuc first second) (writeMarked (jisBytes? highBits) fun c =>
    ((asciiByte? c).map fun b => [b]).or (((e.code? c).bind code?).or
      (if e.refuses c then none
      else (eucSupplement? (jisX0212.place? c)).or ((eucKana? c).or
        (if c = '\uff5e' then jisBytes? highBits tildePlace else none)))))

/-- The rows of the second plane in the order in which Shift JIS has them, behind the rows of the first. -/
def secondRows : List Nat :=
  [0, 7, 2, 3, 4, 11, 12, 13, 14] ++ (List.range 17).map (· + 77)

/-- The number of places of a plane. -/
def planeSize : Nat := 94 * 94

def secondPlace? (place : Nat) : Option Nat :=
  secondRows[(place - planeSize) / 94]?.map fun row => row * 94 + place % 94

def placeOfSecond? (place : Nat) : Option Nat :=
  (secondRows.idxOf? (place / 94)).map fun rank => planeSize + rank * 94 + place % 94

/-- In this Shift JIS two bytes of ASCII stand for the yen sign and the overline, and their own characters have the
places of full-width ones. -/
def wideAscii : List (Nat × Char) := [(31, '\\'), (tildePlace, '~')]

def readShiftJis2004 (e : Edition) (b : UInt8) (rest : List UInt8) : Reading Unit :=
  let single := if b = 0x5C then some '¥' else if b = 0x7E then some '‾' else (asciiChar? b).or (kanaChar? b)
  match single with
  | some c => .chars [c] 1 ()
  | none =>
    if b = 0x80 || b = 0xA0 || 0xFD ≤ b then .illegal 1
    else
      match rest with
      | [] => .incomplete
      | next :: _ =>
        match shiftJisGrid.place? b next with
        | none => .illegal 1
        | some place =>
          match wideAscii.lookup place with
          | some c => .chars [c] 2 ()
          | none =>
            if place < planeSize then e.readFirst place else .ofChar? 2 ((secondPlace? place).bind e.second?)

def shiftJis2004Scheme (e : Edition) : Scheme :=
  let code? : Edition.Code → Option (List UInt8) := fun k =>
    if k.second then (placeOfSecond? k.place).bind (jisBytes? shiftJisGrid) else jisBytes? shiftJisGrid k.place
  .plain (readShiftJis2004 e) (writeMarked (jisBytes? shiftJisGrid) fun c =>
    match wideAscii.find? fun (_, wide) => wide = c with
    | some (place, _) => jisBytes? shiftJisGrid place
    | none =>
      if c = '\uff3c' then none
      else (((romanByte? c).or ((asciiByte? c).or (kanaByte? c))).map fun b => [b]).or ((e.code? c).bind code?))

end Amalgam.Text.Multibyte
