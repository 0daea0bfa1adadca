import Amalgam.Text.Glyph
/-!
# Whole words

Finding and replacing a name as a complete word: no word character stands directly before or after it. Matches are
taken from left to right and do not overlap. An empty name matches between any two characters that are not part of a
word.
-/

namespace Amalgam.Rename

open Amalgam.Text

def isOpen (neighbour : Option Glyph) : Bool :=
  !neighbour.any Glyph.isWord

/-- Whether a name stands at the start of a text as a whole word; `before` is the glyph in front of the text. -/
def startsWithWord (name : List Glyph) (before : Option Glyph) (text : List Glyph) : Bool :=
  name.isPrefixOf text && isOpen before && isOpen (text.drop name.length).head?

/-- The spans of a name from one position on, after passing over `skip` glyphs of the match before. -/
def spansFrom (name : List Glyph) : (skip position : Nat) → (before : Option Glyph) → List Glyph → List (Nat × Nat)
  | _, position, before, [] => if name.isEmpty && isOpen before then [(position, position)] else []
  | skip + 1, position, _, g :: rest => spansFrom name skip (position + 1) (some g) rest
  | 0, position, before, g :: rest =>
    if startsWithWord name before (g :: rest) then
      (position, position + name.length) :: spansFrom name (name.length - 1) (position + 1) (some g) rest
    else spansFrom name 0 (position + 1) (some g) rest

/-- The spans at which a name stands as a whole word. -/
def wordSpans (name text : List Glyph) : List (Nat × Nat) :=
  spansFrom name 0 0 none text

/-- The text from one position on with the name replaced, and the number of replacements. -/
def replaceFrom (name new : List Glyph) : (skip : Nat) → (before : Option Glyph) → List Glyph → List Glyph × Nat
  | _, before, [] => if name.isEmpty && isOpen before then (new, 1) else ([], 0)
  | skip + 1, _, g :: rest => replaceFrom name new skip (some g) rest
  | 0, before, g :: rest =>
    if startsWithWord name before (g :: rest) then
      -- An empty match takes no glyph: the one here stays behind the new name.
      if name.isEmpty then
        let (text, count) := replaceFrom name new 0 (some g) rest
        (new ++ g :: text, count + 1)
      else
        let (text, count) := replaceFrom name new (name.length - 1) (some g) rest
        (new ++ text, count + 1)
    else
      let (text, count) := replaceFrom name new 0 (some g) rest
      (g :: text, count)

/-- The text with a name replaced wherever it is a whole word. -/
def replaceWord (name new text : List Glyph) : List Glyph × Nat :=
  replaceFrom name new 0 none text

end Amalgam.Rename
