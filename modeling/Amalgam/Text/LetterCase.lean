import Amalgam.Text.Class
import Amalgam.Text.Ranges.LetterCase
/-!
# Lower case

The lower-case form of a text. Every capital has one of its own, with two exceptions: the dotted capital I becomes two
characters, and a capital sigma takes its final form at the end of a word.
-/

namespace Amalgam.Text

/-- The lower-case form of a character where it is one character and depends on nothing else. -/
def lowerChar (c : Char) : Char :=
  if c.toNat < 128 then c.toLower
  else
    match Ranges.lowering.find? fun (first, last, step, _) =>
        first ≤ c.toNat && c.toNat ≤ last && (c.toNat - first) % step = 0 with
    | some (_, _, _, distance) => Char.ofNat ((c.toNat : Int) + distance).toNat
    | none => c

/-- Whether the next letter, past marks and signs, exists and has case. -/
def casedNext (cs : List Char) : Bool :=
  match cs.dropWhile fun c => inRanges Ranges.caseIgnorable c.toNat with
  | [] => false
  | c :: _ => inRanges Ranges.cased c.toNat

/-- The lower-case form of what follows some characters, given back to front. -/
def loweredAfter : (before : List Char) → List Char → List Char
  | _, [] => []
  | before, c :: rest =>
    let lower :=
      if c.toNat = 0x130 then ['i', Char.ofNat 0x307]
      else if c = 'Σ' then [if casedNext before && !casedNext rest then 'ς' else 'σ']
      else [lowerChar c]
    lower ++ loweredAfter (c :: before) rest

def lowered (cs : List Char) : List Char :=
  loweredAfter [] cs

def lowercased (s : String) : String :=
  String.ofList (lowered s.toList)

end Amalgam.Text
