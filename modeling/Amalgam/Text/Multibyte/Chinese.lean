import Amalgam.Text.Charts.Chinese
import Amalgam.Text.Charts.HongKong
import Amalgam.Text.Charts.Taiwanese
import Amalgam.Text.Scheme
/-!
# Chinese encodings

GB 2312, its extension to all the ideographs of its day, and GB 18030, which extends that to every character: what has
no code of two bytes has one of four, in the order of the code points. Text in HZ shifts between ASCII and GB 2312. Big5
is the encoding of traditional Chinese, with a vendor's version and with the supplement of Hong Kong.
-/

namespace Amalgam.Text.Multibyte

open Charts

/-! ### Simplified Chinese -/

def gb2312Scheme : Scheme := .ofCoding (.ofChart highBits gb2312)

/-- GB 2312 as the extension has it: two signs are other ones. -/
def gbkFirst : Repertoire := (gb2312.set! 3 (some '·')).set! 9 (some '—')

/-- The compatibility ideographs of the extension. -/
def gbkCompatible : List Char :=
  ['\uf92c', '\uf979', '\uf995', '\uf9e7', '\uf9f1', '\ufa0c', '\ufa0d', '\ufa0e', '\ufa0f', '\ufa11', '\ufa13',
    '\ufa14', '\ufa18', '\ufa1f', '\ufa20', '\ufa21', '\ufa23', '\ufa24', '\ufa27', '\ufa28', '\ufa29']

/-- The ideographs that GB 2312 does not have, and the compatibility ones. -/
def gbkHan : Repertoire :=
  Repertoire.beyond 0x4E00 20902 [gb2312] ++ gbkCompatible.map some

def gbkGrid : Grid := [⟨[(0x81, 0xFE)], [(0x40, 0x7E), (0x80, 0xFE)]⟩]

def gbkHanGrid : Grid :=
  [⟨[(0x81, 0xA0)], [(0x40, 0x7E), (0x80, 0xFE)]⟩, ⟨[(0xAA, 0xFE)], [(0x40, 0x7E), (0x80, 0xA0)]⟩]

def gbkCoding : Coding :=
  .orElse (.ofChart highBits gbkFirst) (.orElse (.ofChart gbkGrid gbkSigns) (.ofChart gbkHanGrid gbkHan))

/-- The codes that are left to the user, for private characters. -/
def gbUserGrid : Grid :=
  [⟨[(0xAA, 0xAF), (0xF8, 0xFE)], [(0xA1, 0xFE)]⟩, ⟨[(0xA1, 0xA7)], [(0x40, 0x7E), (0x80, 0xA0)]⟩]

def gbUser : Repertoire := .beyond 0xE000 1894 []

/-- What GB 18030 writes with two bytes. -/
def gb18030Pairs : Coding :=
  .orElse gbkCoding (.orElse (.ofChart gbkGrid gb18030Rest) (.ofChart gbUserGrid gbUser))

/-- What it writes with four bytes up to U+FFFF, in order. -/
def gb18030Fours : Repertoire :=
  let charts := [gbkFirst, gbkSigns, gbkHan, gb18030Rest, gbUser]
  Repertoire.beyond 0x80 0xD780 charts ++ Repertoire.beyond 0xE000 0x2000 charts

/-- The number of the first code of four bytes for a character from U+10000 on. -/
def supplementaryFour : Nat := 189000

def fourNumber? (a b c d : UInt8) : Option Nat :=
  if 0x81 ≤ a && a ≤ 0xFE && 0x30 ≤ b && b ≤ 0x39 && 0x81 ≤ c && c ≤ 0xFE && 0x30 ≤ d && d ≤ 0x39 then
    some ((((a.toNat - 0x81) * 10 + (b.toNat - 0x30)) * 126 + (c.toNat - 0x81)) * 10 + (d.toNat - 0x30))
  else none

def fourBytes (n : Nat) : List UInt8 :=
  [(0x81 + n / 12600).toUInt8, (0x30 + n / 1260 % 10).toUInt8, (0x81 + n / 10 % 126).toUInt8, (0x30 + n % 10).toUInt8]

def fourChar? (n : Nat) : Option Char :=
  if n < supplementaryFour then gb18030Fours.char? n
  else if n - supplementaryFour < 0x100000 then some (Char.ofNat (0x10000 + (n - supplementaryFour)))
  else none

def fourCode? (c : Char) : Option (List UInt8) :=
  if 0x10000 ≤ c.toNat then some (fourBytes (supplementaryFour + (c.toNat - 0x10000)))
  else (gb18030Fours.place? c).map fourBytes

def readGb18030 (b : UInt8) (rest : List UInt8) : Reading Unit :=
  match asciiChar? b, rest with
  | some c, _ => .chars [c] 1 ()
  | none, [] => .incomplete
  | none, second :: more =>
    -- A digit in the second place means four bytes.
    if 0x30 ≤ second && second ≤ 0x39 then
      match more with
      | third :: fourth :: _ => .ofChar? 4 ((fourNumber? b second third fourth).bind fourChar?)
      | _ => .incomplete
    else .ofChar? 2 (gb18030Pairs.char? b second)

def gb18030Scheme : Scheme :=
  .plain readGb18030 fun c _ =>
    .ofBytes? (((asciiByte? c).map fun b => [b]).or ((gb18030Pairs.code? c).or (fourCode? c)))

/-! ### HZ -/

/-- Reads in ASCII or, when `shifted`, in GB 2312; a tilde begins a shift. -/
def readHz (shifted : Bool) (b : UInt8) (rest : List UInt8) : Reading Bool :=
  if b = 0x7E then
    match rest with
    | [] => .incomplete
    | second :: _ =>
      if shifted then if second = 0x7D then .chars [] 2 false else .illegal 1
      else if second = 0x7E then .chars ['~'] 2 false
      else if second = 0x7B then .chars [] 2 true
      else if second = 0x0A then .chars [] 2 false
      else .illegal 1
  else
    match asciiChar? b with
    | none => .illegal 1
    | some c =>
      if !shifted then .chars [c] 1 false
      else
        match rest with
        | [] => .incomplete
        | second :: _ =>
          match (sevenBits.place? b second).bind gb2312.char? with
          | some han => .chars [han] 2 true
          | none => .illegal 1

def writeHz (shifted : Bool) (c : Char) : Writing Bool :=
  match asciiByte? c with
  | some b =>
    let back : List UInt8 := if shifted then [0x7E, 0x7D] else []
    .bytes (back ++ b :: if b = 0x7E then [b] else []) 1 false
  | none =>
    match (Coding.ofChart sevenBits gb2312).code? c with
    | some code =>
      let forth : List UInt8 := if shifted then [] else [0x7E, 0x7B]
      .bytes (forth ++ code) 1 true
    | none => .illegal

def hzScheme : Scheme where
  Shift := Bool
  start := false
  read := readHz
  write shifted c _ := writeHz shifted c

/-! ### Traditional Chinese -/

def big5Grid : Grid := [⟨[(0x81, 0xFE)], [(0x40, 0x7E), (0xA1, 0xFE)]⟩]

def big5Coding : Coding := (Coding.ofChart big5Grid big5).lastFirst

def big5Scheme : Scheme := .ofCoding big5Coding

def cp950Scheme : Scheme := .ofCoding (.patched (.ofChart big5Grid big5Vendor) big5Coding)

/-- The codes between the two levels of Big5, which the supplement has for itself. -/
def isBetweenLevels (a b : UInt8) : Bool :=
  a = 0xC6 && 0xA1 ≤ b || a = 0xC7 || a = 0xC8

def hkscsCoding : Coding :=
  .orElse (.ofChart big5Grid hkscs) { big5Coding with
    char? := fun a b => if isBetweenLevels a b then none else big5Coding.char? a b }

def readHkscs (b : UInt8) (rest : List UInt8) : Reading Unit :=
  match asciiChar? b, rest with
  | some c, _ => .chars [c] 1 ()
  | none, [] => .incomplete
  | none, second :: _ =>
    match (big5Grid.place? b second).bind fun place => hkscsPairs.lookup place with
    | some (letter, mark) => .chars [letter, mark] 2 ()
    | none => .ofChar? 2 (hkscsCoding.char? b second)

/-- A letter that can carry a mark waits for the glyph after it. -/
def writeHkscs (c : Char) (rest : List Glyph) : Writing Unit :=
  let alone : Writing Unit := .ofBytes? (((asciiByte? c).map fun b => [b]).or (hkscsCoding.code? c))
  if !hkscsPairs.any fun (_, letter, _) => letter = c then alone
  else
    match rest with
    | [] => .incomplete
    | next :: _ =>
      match hkscsPairs.find? fun (_, letter, mark) => letter = c && next = .char mark with
      | some (place, _) =>
        match big5Grid.code? place with
        | some (a, b) => .bytes [a, b] 2 ()
        | none => alone
      | none => alone

def hkscsScheme : Scheme := .plain readHkscs writeHkscs

end Amalgam.Text.Multibyte
