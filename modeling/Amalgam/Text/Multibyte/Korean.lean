import Amalgam.Text.Charts.Korean
import Amalgam.Text.Scheme
/-!
# Korean encodings

The chart holds the syllables in common use. EUC-KR spells the others in letters, with eight bytes; a vendor's extension
gives them codes, in their order; Johab composes the codes of all syllables from their letters.
-/

namespace Amalgam.Text.Multibyte

open Charts

/-! ### Syllables -/

/-- A syllable by the ranks of its initial, its vowel and its final; the final of rank zero is none. -/
structure Syllable where
  initial : Nat
  vowel : Nat
  final : Nat

def Syllable.char (s : Syllable) : Char :=
  Char.ofNat (0xAC00 + (s.initial * 21 + s.vowel) * 28 + s.final)

def syllable? (c : Char) : Option Syllable :=
  if 0xAC00 ≤ c.toNat && c.toNat ≤ 0xD7A3 then
    let n := c.toNat - 0xAC00
    some ⟨n / 588, n / 28 % 21, n % 28⟩
  else none

/-! ### EUC-KR -/

/-- The second bytes of the letters that can be initials, by rank. -/
def initialBytes : List UInt8 :=
  [0xA1, 0xA2, 0xA4, 0xA7, 0xA8, 0xA9, 0xB1, 0xB2, 0xB3, 0xB5, 0xB6, 0xB7, 0xB8, 0xB9, 0xBA, 0xBB, 0xBC, 0xBD, 0xBE]

/-- The second bytes of the finals, by rank; the first is that of the filler. -/
def finalBytes : List UInt8 :=
  [0xD4, 0xA1, 0xA2, 0xA3, 0xA4, 0xA5, 0xA6, 0xA7, 0xA9, 0xAA, 0xAB, 0xAC, 0xAD, 0xAE, 0xAF, 0xB0, 0xB1, 0xB2, 0xB4,
    0xB5, 0xB6, 0xB7, 0xB8, 0xBA, 0xBB, 0xBC, 0xBD, 0xBE]

/-- The syllable that is spelled after a filler: three letters, each behind the byte of their row. -/
def spelled? : List UInt8 → Option Char
  | [a, initial, b, vowel, c, final] => do
    if [a, b, c] != [0xA4, 0xA4, 0xA4] || vowel < 0xBF || 0xD3 < vowel then none
    else return Syllable.char ⟨← initialBytes.idxOf? initial, vowel.toNat - 0xBF, ← finalBytes.idxOf? final⟩
  | _ => none

def spelling (s : Syllable) : List UInt8 :=
  [0xA4, 0xD4, 0xA4, initialBytes.getD s.initial 0, 0xA4, 0xBF + s.vowel.toUInt8, 0xA4, finalBytes.getD s.final 0]

def readEucKr (b : UInt8) (rest : List UInt8) : Reading Unit :=
  if b = 0xA4 && rest.head? = some 0xD4 then
    if rest.length < 7 then .incomplete else .ofChar? 8 (spelled? ((rest.drop 1).take 6))
  else Scheme.readPairs asciiChar? (fun _ => true) (Coding.ofChart highBits ksX1001).char? b rest

def eucKrScheme : Scheme :=
  .plain readEucKr fun c _ =>
    .ofBytes? (((asciiByte? c).map fun b => [b]).or
      (((Coding.ofChart highBits ksX1001).code? c).or ((syllable? c).map spelling)))

/-! ### The vendor's extension -/

def otherSyllables : Repertoire := .beyond 0xAC00 11172 [ksX1001]

def otherSyllablesGrid : Grid :=
  [⟨[(0x81, 0xA0)], [(0x41, 0x5A), (0x61, 0x7A), (0x81, 0xFE)]⟩,
    ⟨[(0xA1, 0xC6)], [(0x41, 0x5A), (0x61, 0x7A), (0x81, 0xA0)]⟩]

def cp949Scheme : Scheme :=
  .ofCoding (.orElse (.ofChart highBits ksX1001) (.ofChart otherSyllablesGrid otherSyllables))

/-! ### Johab -/

/-- The five bits of the initials, by rank; one stands for none. -/
def johabInitials : List Nat := (List.range 19).map (· + 2)

def johabVowels : List Nat :=
  [3, 4, 5, 6, 7, 10, 11, 12, 13, 14, 15, 18, 19, 20, 21, 22, 23, 26, 27, 28, 29]

def johabFinals : List Nat :=
  (List.range 17).map (· + 1) ++ (List.range 11).map (· + 19)

/-- The letters on their own, as they stand for initials. -/
def initialLetters : List Char :=
  "ㄱㄲㄴㄷㄸㄹㅁㅂㅃㅅㅆㅇㅈㅉㅊㅋㅌㅍㅎ".toList

/-- The letters on their own, as they stand for finals after the first, which is none. -/
def finalLetters : List Char :=
  "ㄱㄲㄳㄴㄵㄶㄷㄹㄺㄻㄼㄽㄾㄿㅀㅁㅂㅄㅅㅆㅇㅈㅊㅋㅌㅍㅎ".toList

def vowelLetter (rank : Nat) : Char :=
  Char.ofNat (0x314F + rank)

/-- What three groups of five bits compose: a syllable, a letter on its own, or a blank. -/
def composed? (initial vowel final : Nat) : Option Char :=
  match johabInitials.idxOf? initial, johabVowels.idxOf? vowel, johabFinals.idxOf? final with
  | some i, some v, some f => some (Syllable.char ⟨i, v, f⟩)
  | some i, none, some 0 => if vowel = 2 then initialLetters[i]? else none
  | none, some v, some 0 => if initial = 1 then some (vowelLetter v) else none
  | none, none, some 0 => if initial = 1 && vowel = 2 then some '\u3000' else none
  | none, none, some (f + 1) => if initial = 1 && vowel = 2 then finalLetters[f]? else none
  | _, _, _ => none

def johabBytes (initial vowel final : Nat) : List UInt8 :=
  let n := 0x8000 + initial * 1024 + vowel * 32 + final
  [(n / 256).toUInt8, (n % 256).toUInt8]

/-- A letter on its own is an initial if it can be one. -/
def johabLetter? (c : Char) : Option (List UInt8) :=
  match initialLetters.idxOf? c, finalLetters.idxOf? c with
  | some i, _ => some (johabBytes (i + 2) 2 1)
  | none, some f => some (johabBytes 1 2 (johabFinals.getD (f + 1) 1))
  | none, none =>
    if c < 'ㅏ' || 'ㅣ' < c then none else some (johabBytes 1 (johabVowels.getD (c.toNat - 0x314F) 2) 1)

/-- The signs and the ideographs of the chart, without the rows of syllables between them. -/
def johabSigns : Coding :=
  .orElse (.ofChart [⟨[(0xD9, 0xDE)], [(0x31, 0x7E), (0x91, 0xFE)]⟩] (ksX1001.extract 0 (12 * 94)))
    (.ofChart [⟨[(0xE0, 0xF9)], [(0x31, 0x7E), (0x91, 0xFE)]⟩] (ksX1001.extract (41 * 94)))

def johabChar? (a b : UInt8) : Option Char :=
  if a < 0xD8 then
    let n := a.toNat * 256 + b.toNat
    composed? (n / 1024 % 32) (n / 32 % 32) (n % 32)
  -- The letters of the chart are composed instead.
  else if a = 0xDA && 0xA1 ≤ b && b ≤ 0xD3 then none
  else johabSigns.char? a b

def johabScheme : Scheme :=
  .plain (Scheme.readPairs asciiChar? (fun _ => true) johabChar?) fun c _ =>
    .ofBytes? (((asciiByte? c).map fun b => [b]).or
      (((syllable? c).map fun s =>
        johabBytes (s.initial + 2) (johabVowels.getD s.vowel 2) (johabFinals.getD s.final 1)).or
        ((johabLetter? c).or (johabSigns.code? c))))

end Amalgam.Text.Multibyte
