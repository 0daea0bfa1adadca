import Amalgam.Calendar
import Amalgam.Number.Decimal
/-!
# Tags of plain scalars

A plain scalar is a truth value, a number, nothing, a date, or a mark, if its text has the form of one; any other text is
a string. The forms are tried in a fixed order, and each is decided on the whole text, except that one line feed at its end
does not count.
-/

namespace Amalgam.Yaml

def standard (kind : String) : String :=
  "tag:yaml.org,2002:" ++ kind

def truthWords : List (String × Bool) :=
  [("yes", true), ("no", false), ("true", true), ("false", false), ("on", true), ("off", false)]

/-- A word in lower case, in upper case, or with a capital letter. -/
def isCased (word : String) (text : String) : Bool :=
  text = word || text = word.map Char.toUpper || text = word.capitalize

def isTruthWord (text : String) : Bool :=
  truthWords.any fun w => isCased w.1 text

def isNullWord (text : String) : Bool :=
  text = "" || text = "~" || isCased "null" text

def isDigitOrUnderscore (c : Char) : Bool :=
  c.isDigit || c = '_'

def unsigned : List Char → List Char
  | '-' :: rest => rest
  | '+' :: rest => rest
  | cs => cs

/-- One or more groups of a colon and a number below sixty, up to the end. -/
def isSixtieths : List Char → Bool
  | [':', d] => d.isDigit
  | [':', d, e] => ('0' ≤ d && d ≤ '5') && e.isDigit
  | ':' :: d :: ':' :: rest => d.isDigit && isSixtieths (':' :: rest)
  | ':' :: d :: e :: ':' :: rest => ('0' ≤ d && d ≤ '5') && e.isDigit && isSixtieths (':' :: rest)
  | _ => false

/-- Whole numbers: binary, octal, decimal, hexadecimal, or in base sixty. -/
def isInteger (text : List Char) : Bool :=
  match unsigned text with
  | '0' :: 'b' :: rest => !rest.isEmpty && rest.all fun c => c = '0' || c = '1' || c = '_'
  | '0' :: 'x' :: rest => !rest.isEmpty && rest.all fun c => c.isDigit || ('a' ≤ c && c ≤ 'f') || ('A' ≤ c && c ≤ 'F') || c = '_'
  | '0' :: rest => rest.all fun c => ('0' ≤ c && c ≤ '7') || c = '_'
  | c :: rest =>
    c.isDigit && (rest.all isDigitOrUnderscore || isSixtieths (rest.dropWhile isDigitOrUnderscore))
  | [] => false

/-- An exponent with a sign, or nothing. -/
def isSignedExponent : List Char → Bool
  | [] => true
  | mark :: sign :: digits =>
    (mark = 'e' || mark = 'E') && (sign = '-' || sign = '+') && !digits.isEmpty && digits.all Char.isDigit
  | _ => false

/-- Floating-point numbers; they have a point. -/
def isReal (text : List Char) : Bool :=
  let body := unsigned text
  let whole := body.takeWhile isDigitOrUnderscore
  let rest := body.dropWhile isDigitOrUnderscore
  if whole.head?.any Char.isDigit then
    match rest with
    | '.' :: fraction => isSignedExponent (fraction.dropWhile isDigitOrUnderscore)
    | _ =>
      let sixtieths := rest.takeWhile fun c => c != '.'
      isSixtieths sixtieths &&
        match rest.drop sixtieths.length with
        | '.' :: fraction => fraction.all isDigitOrUnderscore
        | _ => false
  else
    match text with
    | '.' :: d :: fraction =>
      (d.isDigit && isSignedExponent (fraction.dropWhile isDigitOrUnderscore)) ||
        [".nan", ".NaN", ".NAN", ".inf", ".Inf", ".INF"].contains (String.ofList text)
    | _ => [".inf", ".Inf", ".INF"].contains (String.ofList body)

/-- A date as written, and a time of day after it if there is one. -/
inductive Timestamp
  | day (date : Date)
  | time (moment : Moment)
deriving DecidableEq, Repr

/-- Between `least` and `most` digits at the start of a text. -/
def digitRun (least most : Nat) (cs : List Char) : Option (Nat × List Char) :=
  let ds := (cs.take most).takeWhile Char.isDigit
  if least ≤ ds.length then some (Number.digitsValue ds, cs.drop ds.length) else none

def zone? (cs : List Char) : Option (Option Int) :=
  match cs.dropWhile fun c => c = ' ' || c = '\t' with
  | [] => if cs.isEmpty then some none else none
  | ['Z'] => some (some 0)
  | sign :: rest =>
    if sign = '-' || sign = '+' then do
      let (hours, rest) ← digitRun 1 2 rest
      let minutes ← match rest with
        | [] => some 0
        | [':', a, b] => if a.isDigit && b.isDigit then some (Number.digitsValue [a, b]) else none
        | _ => none
      let offset : Int := hours * 60 + minutes
      return some (if sign = '-' then -offset else offset)
    else none

def clock? (date : Date) (cs : List Char) : Option Moment := do
  let rest := match cs with
    | 'T' :: rest => some rest
    | 't' :: rest => some rest
    | c :: _ => if c = ' ' || c = '\t' then some (cs.dropWhile fun c => c = ' ' || c = '\t') else none
    | [] => none
  let (hour, rest) ← digitRun 1 2 (← rest)
  match rest with
  | ':' :: rest =>
    let (minute, rest) ← digitRun 2 2 rest
    match rest with
    | ':' :: rest =>
      let (second, rest) ← digitRun 2 2 rest
      let (fraction, rest) := match rest with
        | '.' :: rest => (rest.takeWhile Char.isDigit, rest.dropWhile Char.isDigit)
        | rest => ([], rest)
      let micro := Number.digitsValue ((fraction ++ List.replicate 6 '0').take 6)
      return ⟨date, hour, minute, second, micro, ← zone? rest⟩
    | _ => none
  | _ => none

def Timestamp.ofChars? (cs : List Char) : Option Timestamp := do
  let (year, rest) ← digitRun 4 4 cs
  match rest with
  | '-' :: rest =>
    let (month, rest) ← digitRun 1 2 rest
    match rest with
    | '-' :: rest =>
      let (dayOfMonth, rest) ← digitRun 1 2 rest
      let date : Date := ⟨year, month, dayOfMonth⟩
      if rest.isEmpty then return .day date else (clock? date rest).map .time
    | _ => none
  | _ => none

/-- Timestamps that need no tag: a date alone has two digits for month and day. -/
def isTimestamp (text : List Char) : Bool :=
  match Timestamp.ofChars? text with
  | some (.time _) => true
  | some (.day _) => text.length = 10
  | none => false

def withoutFinalBreak (cs : List Char) : List Char :=
  if cs.getLast? = some '\n' then cs.dropLast else cs

def implicitTag (text : String) : String :=
  let cs := withoutFinalBreak text.toList
  let body := String.ofList cs
  if text = "\n" then standard "str"
  else if isTruthWord body then standard "bool"
  else if isReal cs then standard "float"
  else if isInteger cs then standard "int"
  else if body = "<<" then standard "merge"
  else if isNullWord body then standard "null"
  else if isTimestamp cs then standard "timestamp"
  else if body = "=" then standard "value"
  else if ["!", "&", "*"].contains body then standard "yaml"
  else standard "str"

end Amalgam.Yaml
