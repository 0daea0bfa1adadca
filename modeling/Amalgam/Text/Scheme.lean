import Amalgam.Text.Glyph
import Amalgam.Text.Repertoire
/-!
# Reading and writing several bytes for a character

A scheme says what the bytes at a position stand for and how the glyphs at a position are written. It may shift: what it
does next can depend on what it has met before. Reading ends early when the last bytes begin something and do not
finish it. So does writing: a character that could form a pair with a character after it waits for that one, and at the
end of the text there is none.
-/

namespace Amalgam.Text

/-- What stands at a position of the bytes: characters with the bytes they take, bytes that stand for nothing, or the
start of something that is not finished. -/
inductive Reading (σ : Type)
  | chars (cs : List Char) (size : Nat) (shift : σ)
  | illegal (size : Nat)
  | incomplete

/-- What is written for the glyphs at a position: bytes for some of them, nothing because there is no code, or nothing
yet. -/
inductive Writing (σ : Type)
  | bytes (bs : List UInt8) (size : Nat) (shift : σ)
  | illegal
  | incomplete

structure Scheme where
  Shift : Type
  start : Shift
  /-- Reads the first byte and what comes after it. -/
  read : Shift → UInt8 → List UInt8 → Reading Shift
  /-- Writes a character, with the glyphs after it in sight. -/
  write : Shift → Char → List Glyph → Writing Shift

/-! ### Bytes for characters -/

def asciiChar? (b : UInt8) : Option Char :=
  if b < 128 then some (Char.ofNat b.toNat) else none

def asciiByte? (c : Char) : Option UInt8 :=
  if c.toNat < 128 then some c.toNat.toUInt8 else none

/-- The half-width letters of Japanese, in one byte. -/
def kanaChar? (b : UInt8) : Option Char :=
  if 0xA1 ≤ b && b ≤ 0xDF then some (Char.ofNat (0xFEC0 + b.toNat)) else none

def kanaByte? (c : Char) : Option UInt8 :=
  if 0xFF61 ≤ c.toNat && c.toNat ≤ 0xFF9F then some (c.toNat - 0xFEC0).toUInt8 else none

/-- The yen sign and the overline, for which Japan has the codes of two characters of ASCII. -/
def romanByte? (c : Char) : Option UInt8 :=
  if c = '¥' then some 0x5C else if c = '‾' then some 0x7E else none

/-! ### Schemes without shifts -/

def Reading.ofChar? (size : Nat) : Option Char → Reading Unit
  | some c => .chars [c] size ()
  | none => .illegal 1

def Writing.ofBytes? (bs? : Option (List UInt8)) : Writing Unit :=
  match bs? with
  | some bs => .bytes bs 1 ()
  | none => .illegal

namespace Scheme

/-- A scheme in which every position is read and written by itself. -/
def plain (read : UInt8 → List UInt8 → Reading Unit) (write : Char → List Glyph → Writing Unit) : Scheme where
  Shift := Unit
  start := ()
  read _ := read
  write _ := write

/-- Some bytes stand for characters of their own, some begin a pair and the others stand for nothing. -/
def readPairs (single : UInt8 → Option Char) (begins : UInt8 → Bool) (char? : UInt8 → UInt8 → Option Char) (b : UInt8)
    (rest : List UInt8) : Reading Unit :=
  match single b with
  | some c => .chars [c] 1 ()
  | none =>
    if !begins b then .illegal 1
    else
      match rest with
      | [] => .incomplete
      | second :: _ => .ofChar? 2 (char? b second)

/-- Characters of one byte and of two. -/
def ofPairs (single : UInt8 → Option Char) (byte? : Char → Option UInt8) (begins : UInt8 → Bool) (x : Coding) :
    Scheme :=
  plain (readPairs single begins x.char?) fun c _ => .ofBytes? (((byte? c).map fun b => [b]).or (x.code? c))

/-- ASCII and characters of two bytes. -/
def ofCoding (x : Coding) : Scheme :=
  ofPairs asciiChar? asciiByte? (fun _ => true) x

end Scheme

end Amalgam.Text
