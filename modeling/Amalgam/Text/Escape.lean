import Amalgam.Number.Digit
/-!
# Escapes

In escaped text a backslash and what follows it stand for a character. A plain escape may be a letter, an octal or a
hexadecimal code or the name of a character; a backslash at the end of a line joins it with the next, and one before
anything else stands for itself. Raw text has only the escapes of code points.
-/

namespace Amalgam.Text

open Amalgam.Number

/-- What a backslash and the characters after it stand for, and how many of these it takes. -/
inductive Escape
  | chars (cs : List Char) (size : Nat)
  | fault (size : Nat) (reason : String)
deriving DecidableEq, Repr

namespace Escape

def code (base : Nat) (digits : List Char) : Nat :=
  digits.foldl (fun n c => n * base + (hexValue? c).getD 0) 0

/-- A code of a fixed number of hexadecimal digits after a letter. -/
def hexCode (letter : Char) (width : Nat) (tooLarge : String) (rest : List Char) : Escape :=
  let digits := (rest.take width).takeWhile fun c => (hexValue? c).isSome
  if digits.length < width then
    .fault (1 + digits.length)
      ("truncated \\" ++ String.ofList (letter :: List.replicate width 'X') ++ " escape")
  else if 0x10FFFF < code 16 digits then .fault (1 + width) tooLarge
  else .chars [Char.ofNat (code 16 digits)] (1 + width)

def ofLetter? (c : Char) : Option Char :=
  [('\\', '\\'), ('\'', '\''), ('"', '"'), ('a', '\x07'), ('b', '\x08'), ('f', '\x0c'), ('n', '\n'), ('r', '\r'),
    ('t', '\t'), ('v', '\x0b')].lookup c

def isOctal (c : Char) : Bool :=
  '0' ≤ c && c ≤ '7'

/-- Reads an escape after its backslash. A character that is named shows as the one that stands for the unknown. -/
def read : List Char → Escape
  | [] => .fault 0 "\\ at end of string"
  | c :: rest =>
    if c = '\n' then .chars [] 1
    else if c = 'x' then hexCode c 2 "" rest
    else if c = 'u' then hexCode c 4 "" rest
    else if c = 'U' then hexCode c 8 "illegal Unicode character" rest
    else if c = 'N' then
      match rest with
      | '{' :: after =>
        let name := after.takeWhile (· != '}')
        if name.isEmpty || name.length = after.length then .fault (2 + name.length) "malformed \\N character escape"
        else .chars ['\ufffd'] (3 + name.length)
      | _ => .fault 1 "malformed \\N character escape"
    else if isOctal c then
      let digits := c :: (rest.take 2).takeWhile isOctal
      .chars [Char.ofNat (code 8 digits)] digits.length
    else
      match ofLetter? c with
      | some d => .chars [d] 1
      | none => .chars ['\\', c] 1

/-- Reads an escape of raw text after its backslash. -/
def readRaw : List Char → Escape
  | [] => .chars ['\\'] 0
  | c :: rest =>
    if c = 'u' then hexCode c 4 "" rest
    else if c = 'U' then hexCode c 8 "\\Uxxxxxxxx out of range" rest
    else .chars ['\\', c] 1

end Escape

end Amalgam.Text
