import Amalgam.Text.Class
import Amalgam.Text.Ranges.Identifier
/-!
# Tokens of literals

The arguments of an action are written as an expression. This module divides its text into names, numbers, strings and
marks, where a keyword is a mark too. The text is read from the left only as far as it is asked for, so a fault in it shows
only to a reader who gets there: tokens come as a list and what ends the list.
-/

namespace Amalgam.Console.Literal

open Amalgam.Text

namespace Token

/-- The kinds of tokens. -/
inductive Kind
  | name
  | number
  | string
  | mark
  | newline
  | indent
  | finish
deriving DecidableEq, Repr

end Token

/-- A token, how many brackets are open after it, and its line. A token whose end was found by looking at the end of the
text has seen that end. -/
structure Token where
  kind : Token.Kind
  text : List Char
  level : Nat
  line : Nat
  seesEnd : Bool := false
deriving DecidableEq, Repr

/-- What ends a list of tokens: the end of the text, or a fault. A plain fault is met only by a reader who gets to it, while
a grave one is reported whatever else is wrong before it. With a plain fault goes the line of the last bracket that is open
there. -/
inductive Ending
  | complete
  | plain (message : String) (unclosed : Option (Char × Nat))
  | grave (message : String)
deriving DecidableEq, Repr

def neverClosed (bracket : Char) : String :=
  "'" ++ String.singleton bracket ++ "' was never closed"

structure Tokens where
  tokens : List Token
  ending : Ending
deriving DecidableEq, Repr

/-! ### Names -/

/-- A character that a name goes on with. Beyond ASCII all do, and are looked at when the name is complete. -/
def extendsName (c : Char) : Bool :=
  c.isAlphanum || c = '_' || 128 ≤ c.toNat

def beginsName (c : Char) : Bool :=
  c.isAlpha || c = '_' || 128 ≤ c.toNat

/-- A code point in hexadecimal, with at least four digits. -/
def codePoint (c : Char) : String :=
  let digits := (Nat.toDigits 16 c.toNat).map Char.toUpper
  String.ofList ('U' :: '+' :: List.replicate (4 - digits.length) '0' ++ digits)

def strangeCharacter (c : Char) : String :=
  if isPrintable c then "invalid character '" ++ String.singleton c ++ "' (" ++ codePoint c ++ ")"
  else "invalid non-printable character " ++ codePoint c

/-- The first character of a name that may not stand where it does. -/
def strangeInName? (name : List Char) : Option Char :=
  let begins (c : Char) := c.toNat < 128 || inRanges Ranges.identifierStart c.toNat
  let goesOn (c : Char) := begins c || inRanges Ranges.identifierContinue c.toNat
  match name with
  | [] => none
  | c :: rest => if begins c then rest.find? fun d => !goesOn d else some c

def keywords : List String :=
  ["False", "None", "True", "and", "as", "assert", "async", "await", "break", "class", "continue", "def", "del", "elif",
    "else", "except", "finally", "for", "from", "global", "if", "import", "in", "is", "lambda", "nonlocal", "not", "or",
    "pass", "raise", "return", "try", "while", "with", "yield"]

/-! ### Numbers -/

/-- What a scan of digits has taken and what follows, or the message of a fault. -/
abbrev Scan := Except String (List Char × List Char)

/-- Digits with single underscores between them. The message for an underscore without a digit may depend on what follows
it. -/
def digitRow (isDigit : Char → Bool) (fault : Option Char → String) : List Char → Scan
  | [] => .ok ([], [])
  | ['_'] => .error (fault none)
  | '_' :: d :: rest =>
    if isDigit d then do
      let (taken, after) ← digitRow isDigit fault rest
      return ('_' :: d :: taken, after)
    else .error (fault (some d))
  | c :: rest =>
    if isDigit c then do
      let (taken, after) ← digitRow isDigit fault rest
      return (c :: taken, after)
    else .ok ([], c :: rest)

/-- Whether a keyword follows that may stand directly after a number. -/
def keywordFollows (after : List Char) : Bool :=
  (["if", "in", "is"].any fun w => w.toList.isPrefixOf after) ||
    ["and", "else", "for", "or", "not"].any fun w =>
      w.toList.isPrefixOf after && !((after.drop w.length).head?.map extendsName).getD false

/-- A keyword may follow a number directly, and nothing else that a name is made of. -/
def numberEnd (kind : String) (taken after : List Char) : Scan :=
  match after with
  | c :: _ =>
    if !keywordFollows after && c.toNat < 128 && extendsName c then .error ("invalid " ++ kind ++ " literal")
    else .ok (taken, after)
  | [] => .ok (taken, after)

/-- An imaginary unit, and the end of a decimal number. -/
def imaginaryEnd (taken after : List Char) : Scan :=
  match after with
  | c :: rest => if c = 'j' || c = 'J' then numberEnd "imaginary" (taken ++ [c]) rest else numberEnd "decimal" taken after
  | [] => .ok (taken, after)

def decimalFault : String := "invalid decimal literal"

def decimalRow (cs : List Char) : Scan :=
  digitRow Char.isDigit (fun _ => decimalFault) cs

/-- An exponent, and the end of a decimal number. A letter without digits after it is no exponent. -/
def exponentEnd (taken after : List Char) : Scan :=
  match after with
  | e :: rest =>
    if e = 'e' || e = 'E' then
      match rest with
      | s :: d :: rest' =>
        if (s = '+' || s = '-') then
          if d.isDigit then do
            let (digits, after) ← decimalRow (d :: rest')
            imaginaryEnd (taken ++ e :: s :: digits) after
          else .error decimalFault
        else if s.isDigit then do
          let (digits, after) ← decimalRow rest
          imaginaryEnd (taken ++ e :: digits) after
        else numberEnd "decimal" taken after
      | [s] =>
        if s = '+' || s = '-' then .error decimalFault
        else if s.isDigit then .ok (taken ++ [e, s], [])
        else numberEnd "decimal" taken after
      | [] => numberEnd "decimal" taken after
    else imaginaryEnd taken after
  | [] => .ok (taken, after)

/-- A fraction after the point, and the end of a decimal number. -/
def fractionEnd (taken after : List Char) : Scan :=
  match after with
  | c :: _ =>
    if c.isDigit then do
      let (digits, after) ← decimalRow after
      exponentEnd (taken ++ digits) after
    else exponentEnd taken after
  | [] => .ok (taken, after)

def decimalEnd (taken after : List Char) : Scan :=
  match after with
  | '.' :: rest => fractionEnd (taken ++ ['.']) rest
  | _ => exponentEnd taken after

/-- A number in base two, eight or sixteen, after its mark. -/
def basedNumber (kind : String) (isDigit : Char → Bool) (taken after : List Char) : Scan := do
  let fault (c : Option Char) : String :=
    match c.filter Char.isDigit with
    | some d => "invalid digit '" ++ String.singleton d ++ "' in " ++ kind ++ " literal"
    | none => "invalid " ++ kind ++ " literal"
  let (digits, rest) ← digitRow isDigit fault after
  if digits.isEmpty || (rest.head?.map Char.isDigit).getD false then .error (fault rest.head?)
  else numberEnd kind (taken ++ digits) rest

def isHexDigit (c : Char) : Bool :=
  c.isDigit || ('a' ≤ c.toLower && c.toLower ≤ 'f')

/-- A number after a nought at its start: only noughts may follow, unless it turns out to be no whole number. -/
def noughtNumber (after : List Char) : Scan := do
  let (digits, rest) ← decimalRow after
  if (rest.head?.map fun c => ['.', 'e', 'E', 'j', 'J'].contains c).getD false then decimalEnd ('0' :: digits) rest
  else if digits.any fun d => d != '0' && d != '_' then
    .error "leading zeros in decimal integer literals are not permitted; use an 0o prefix for octal integers"
  else numberEnd "decimal" ('0' :: digits) rest

/-- A number at the start of a text, which begins with a digit or with a point and a digit. -/
def number (cs : List Char) : Scan :=
  match cs with
  | '0' :: mark :: rest =>
    if mark = 'x' || mark = 'X' then basedNumber "hexadecimal" isHexDigit ['0', mark] rest
    else if mark = 'o' || mark = 'O' then basedNumber "octal" (fun c => '0' ≤ c && c ≤ '7') ['0', mark] rest
    else if mark = 'b' || mark = 'B' then basedNumber "binary" (fun c => c = '0' || c = '1') ['0', mark] rest
    else noughtNumber (mark :: rest)
  | '.' :: rest => fractionEnd ['.'] rest
  | _ => do
    let (digits, after) ← decimalRow cs
    decimalEnd digits after

/-! ### Strings -/

/-- The letters before a string that say how it is read: none twice, and only some together. -/
def isStringMark (letters : List Char) : Bool :=
  ["", "b", "r", "u", "f", "br", "rb", "fr", "rf"].contains (String.ofList (letters.map Char.toLower))

/-- What stands in a string up to its end, with the end, and what follows it. -/
def stringBody (quote : Char) (triple : Bool) : List Char → Option (List Char × List Char)
  | [] => none
  | '\\' :: c :: rest => (stringBody quote triple rest).map fun (body, after) => ('\\' :: c :: body, after)
  | ['\\'] => none
  | c :: rest =>
    if c = quote then
      if !triple then some ([c], rest)
      else if rest.take 2 = [quote, quote] then some ([c, c, c], rest.drop 2)
      else (stringBody quote triple rest).map fun (body, after) => (c :: body, after)
    else if c = '\n' && !triple then none
    else (stringBody quote triple rest).map fun (body, after) => (c :: body, after)

/-- The line on which a string without an end is given up: the end of its line, or of the text. -/
def lostOn (line : Nat) (triple : Bool) : List Char → Nat
  | [] => line
  | '\\' :: '\n' :: rest => lostOn (if rest.isEmpty then line else line + 1) triple rest
  | '\\' :: _ :: rest => lostOn line triple rest
  | '\n' :: rest => if triple && !rest.isEmpty then lostOn (line + 1) triple rest else line
  | _ :: rest => lostOn line triple rest

/-! ### Marks -/

def longMarks : List String :=
  ["**=", "...", "//=", "<<=", ">>=", "!=", "%=", "&=", "**", "*=", "+=", "-=", "->", "//", "/=", ":=", "<<", "<=", "<>",
    "==", ">=", ">>", "@=", "^=", "|="]

def closingOf (bracket : Char) : Char :=
  if bracket = '(' then ')' else '}'

def maxOpen : Nat := 200

/-! ### Scanning -/

/-- Where a scan stands: what is left, the brackets that are open with their lines, the line, how far it is indented when
its first token is still to come, and how far the lines are indented that it belongs to, innermost first. -/
structure Scanner where
  rest : List Char
  opened : List (Char × Nat) := []
  line : Nat := 1
  indent : Option Nat := none
  outer : List Nat := [0]
deriving DecidableEq, Repr

namespace Scanner

def grave (message : String) : Tokens :=
  ⟨[], .grave message⟩

def plain (s : Scanner) (message : String) : Tokens :=
  ⟨[], .plain message s.opened.head?⟩

def atEnd (s : Scanner) : Tokens :=
  match s.opened with
  | (bracket, _) :: _ => s.plain (neverClosed bracket)
  | [] => ⟨[⟨.finish, [], 0, s.line, true⟩], .complete⟩

def give (s : Scanner) (kind : Token.Kind) (text : List Char) (opened : List (Char × Nat)) (rest : List Char)
    (more : Tokens) : Tokens :=
  let looksOn := if kind = .string then text.length = 2 else !(kind = .mark && longMarks.contains (String.ofList text) && text.length = 3)
  { more with tokens := ⟨kind, text, opened.length, s.line, rest.isEmpty && looksOn⟩ :: more.tokens }

/-- The tokens of a text. Every step takes at least one character, so the length of the text is enough fuel. -/
def scan : (fuel : Nat) → Scanner → Tokens
  | 0, s => s.atEnd
  | fuel + 1, s =>
    match s.rest with
    | [] => s.atEnd
    | c :: rest =>
      if c = ' ' || c = '\t' then
        scan fuel { s with rest, indent := s.indent.map fun n => if c = ' ' then n + 1 else (n / 8 + 1) * 8 }
      else if c = '\x0c' then scan fuel { s with rest, indent := s.indent.map fun _ => 0 }
      else if c = '#' then scan fuel { s with rest := rest.dropWhile (· != '\n') }
      else if c = '\n' then
        let next : Scanner := { s with rest, line := s.line + 1, indent := some 0 }
        if !s.opened.isEmpty || s.indent.isSome then scan fuel next
        else s.give .newline [c] [] [c] (scan fuel next)
      else if c = '\\' then
        match rest with
        | '\n' :: after =>
          if after.isEmpty then
            s.plain (match s.opened with
              | (bracket, _) :: _ => neverClosed bracket
              | [] => "unexpected EOF while parsing")
          else scan fuel { s with rest := after, line := s.line + 1 }
        | _ => s.plain "unexpected character after line continuation character"
      else
        let indent := if s.opened.isEmpty then s.indent.getD (s.outer.headD 0) else s.outer.headD 0
        let indented := decide (s.outer.headD 0 < indent)
        let outer := if indented then indent :: s.outer else s.outer.dropWhile (indent < ·)
        let here := { s with indent := none, outer }
        let token : Tokens :=
          if beginsName c then
            let name := s.rest.takeWhile extendsName
            let after := s.rest.drop name.length
            let quote? := (after.head?).filter fun q => (q = '\'' || q = '"') && isStringMark name
            match quote? with
            | some quote => string fuel here name quote (after.drop 1)
            | none =>
              match strangeInName? name with
              | some odd => grave (strangeCharacter odd)
              | none =>
                let kind := if keywords.contains (String.ofList name) then Token.Kind.mark else .name
                here.give kind name here.opened after (scan fuel { here with rest := after })
          else if c = '\'' || c = '"' then string fuel here [] c rest
          else if c.isDigit || (c = '.' && (rest.head?.map Char.isDigit).getD false) then
            match number s.rest with
            | .error message => grave message
            | .ok (taken, after) => here.give .number taken here.opened after (scan fuel { here with rest := after })
          else
            match longMarks.find? fun m => m.toList.isPrefixOf s.rest with
            | some mark =>
              let after := s.rest.drop mark.length
              here.give .mark mark.toList here.opened after (scan fuel { here with rest := after })
            | none =>
              if c = '(' || c = '{' then
                if maxOpen ≤ here.opened.length then grave "too many nested parentheses"
                else
                  let opened := (c, here.line) :: here.opened
                  here.give .mark [c] opened rest (scan fuel { here with rest, opened })
              else if c = ')' || c = '}' then
                match here.opened with
                | [] => grave ("unmatched '" ++ String.singleton c ++ "'")
                | (bracket, line) :: opened =>
                  if closingOf bracket = c then here.give .mark [c] opened rest (scan fuel { here with rest, opened })
                  else grave ("closing parenthesis '" ++ String.singleton c ++ "' does not match opening parenthesis '" ++
                    String.singleton bracket ++ "'" ++
                    if line = here.line then "" else " on line " ++ String.ofList (Nat.toDigits 10 line))
              else if isPrintable c then here.give .mark [c] here.opened rest (scan fuel { here with rest })
              else grave (strangeCharacter c)
        if outer.headD 0 != indent then s.plain "unindent does not match any outer indentation level"
        else if indented then here.give .indent [] [] s.rest token
        else token
where
  /-- A string after its first quote. -/
  string (fuel : Nat) (s : Scanner) (letters : List Char) (quote : Char) (rest : List Char) : Tokens :=
    let triple := rest.take 2 = [quote, quote]
    let inside := if triple then rest.drop 2 else rest
    match stringBody quote triple inside with
    | none =>
      grave ("unterminated " ++ (if triple then "triple-quoted " else "") ++ "string literal (detected at line " ++
        String.ofList (Nat.toDigits 10 (lostOn s.line triple inside)) ++ ")")
    | some (body, after) =>
      let text := letters ++ List.replicate (if triple then 3 else 1) quote ++ body
      s.give .string text s.opened after
        (scan fuel { s with rest := after, line := s.line + (text.filter (· = '\n')).length })

end Scanner

/-- The tokens of a text; line ends of all kinds are line feeds. -/
def Tokens.ofText (cs : List Char) : Tokens :=
  Scanner.scan (cs.length + 1) { rest := cs, indent := some 0 }

end Amalgam.Console.Literal
