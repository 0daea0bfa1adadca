import Amalgam.Text.Class
/-!
# Text with undecodable bytes

A source file need not be valid in its encoding. Its text is then a list of glyphs: decoded characters, and single
bytes that did not decode and are carried along unchanged. A raw byte is never part of a word.
-/

namespace Amalgam.Text

/-- A decoded character, or a byte kept as it was found. -/
inductive Glyph
  | char (c : Char)
  | byte (b : UInt8)
deriving DecidableEq, Repr

namespace Glyph

def isWord : Glyph → Bool
  | char c => Text.isWord c
  | byte _ => false

def char? : Glyph → Option Char
  | char c => some c
  | byte _ => none

end Glyph

/-- A text without raw bytes. -/
def glyphs (s : String) : List Glyph :=
  s.toList.map Glyph.char

def glyphText (gs : List Glyph) : String :=
  String.ofList (gs.filterMap Glyph.char?)

@[simp] theorem glyphText_glyphs (s : String) : glyphText (glyphs s) = s := by
  have h : (s.toList.map Glyph.char).filterMap Glyph.char? = s.toList := by
    rw [List.filterMap_map]
    exact List.filterMap_some
  simp [glyphText, glyphs, h]

end Amalgam.Text
