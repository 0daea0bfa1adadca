import Amalgam.Json.Reader
import Amalgam.Proofs.Value.Bindings
/-!
# The grammar of JSON

Which texts spell which values, said without a reader and without a writer. A text may be spelled in many ways: each of
its characters plainly, by a letter or by its code, and any blanks between the parts of a list or mapping. The bindings
of a mapping are the ones that are written, in their order. A dialect fixes the words that stand for values, and which
lengths of whole numerals there are.
-/

namespace Amalgam.Json

open Amalgam.Number Amalgam.Text

/-- What programs add to the standard or leave out. -/
structure Dialect where
  words : List (List Char × Value)
  fits : Nat → Prop

/-- The standard itself: three words, and numerals of any length. -/
def Dialect.standard : Dialect :=
  ⟨[("null".toList, .null), ("true".toList, .bool true), ("false".toList, .bool false)], fun _ => True⟩

/-- What the reader takes: also words for what has no digits, and no longer numerals than it can read. -/
def Dialect.readable : Dialect :=
  ⟨Json.words, (· ≤ digitLimit)⟩

def Blank (cs : List Char) : Prop :=
  ∀ c ∈ cs, isSpace c = true

/-! ### Texts -/

/-- Four hexadecimal digits. -/
inductive UnitDigits : Nat → List Char → Prop
  | mk {a b c d : Char} {w x y z : Nat} (ha : hexValue? a = some w) (hb : hexValue? b = some x)
      (hc : hexValue? c = some y) (hd : hexValue? d = some z) :
      UnitDigits (((w * 16 + x) * 16 + y) * 16 + z) [a, b, c, d]

/-- The spellings of a character: by itself, by a letter, by its code, or by the pair of units that encodes it. -/
inductive SpellsChar : Char → List Char → Prop
  | plain {c : Char} (hquote : c ≠ '"') (hslash : c ≠ '\\') (hprintable : 32 ≤ c.toNat) : SpellsChar c [c]
  | letter {c e : Char} (h : shortEscape? e = some c) : SpellsChar c ['\\', e]
  | code {n : Nat} {ds : List Char} (h : UnitDigits n ds) (hhigh : isHighUnit n = false) (hlow : isLowUnit n = false) :
      SpellsChar (Char.ofNat n) ('\\' :: 'u' :: ds)
  | pair {high low : Nat} {ds es : List Char} (hds : UnitDigits high ds) (hes : UnitDigits low es)
      (hhigh : isHighUnit high = true) (hlow : isLowUnit low = true) :
      SpellsChar (Char.ofNat (0x10000 + (high - 0xD800) * 1024 + (low - 0xDC00)))
        ('\\' :: 'u' :: ds ++ '\\' :: 'u' :: es)

inductive SpellsChars : List Char → List Char → Prop
  | nil : SpellsChars [] []
  | cons {c : Char} {rest cs ds : List Char} (hc : SpellsChar c cs) (hrest : SpellsChars rest ds) :
      SpellsChars (c :: rest) (cs ++ ds)

/-! ### Numbers -/

def signed (negative : Bool) (n : Nat) : Int :=
  if negative then -n else n

/-- A minus before a number that is negative. -/
def minus (negative : Bool) : List Char :=
  if negative then ['-'] else []

def IsDigits (ds : List Char) : Prop :=
  ds ≠ [] ∧ ∀ c ∈ ds, c.isDigit = true

/-- Digits before a point: a zero, or digits that start with another one. -/
def IsWhole (ds : List Char) : Prop :=
  ds = ['0'] ∨ IsDigits ds ∧ ds.head? ≠ some '0'

/-- The digits after a point, and the point with them; or neither. -/
inductive Fraction : List Char → List Char → Prop
  | absent : Fraction [] []
  | point {ds : List Char} (h : IsDigits ds) : Fraction ds ('.' :: ds)

inductive Sign : Bool → List Char → Prop
  | absent : Sign false []
  | plus : Sign false ['+']
  | minus : Sign true ['-']

/-- An exponent with its mark, or neither. -/
inductive Power : Option Int → List Char → Prop
  | absent : Power none []
  | mark {c : Char} {negative : Bool} {sign ds : List Char} (hmark : c = 'e' ∨ c = 'E') (hsign : Sign negative sign)
      (h : IsDigits ds) : Power (some (signed negative (digitsValue ds))) (c :: sign ++ ds)

/-! ### Values -/

/-- What a stretch of a document spells: a value, the values between brackets, one binding, or the bindings between
braces. -/
inductive Part
  | value (v : Value)
  | elements (items : List Value)
  | member (name : String) (v : Value)
  | members (fields : Fields)

inductive Spells (D : Dialect) : Part → List Char → Prop
  | word {cs : List Char} {v : Value} (h : (cs, v) ∈ D.words) : Spells D (.value v) cs
  | whole {negative : Bool} {ds : List Char} (hds : IsWhole ds) (hfits : D.fits ds.length) :
      Spells D (.value (.int (signed negative (digitsValue ds)))) (minus negative ++ ds)
  | real {negative : Bool} {ds fraction point mark : List Char} {power : Option Int} (hds : IsWhole ds)
      (hfraction : Fraction fraction point) (hpower : Power power mark) (hreal : fraction ≠ [] ∨ power ≠ none) :
      Spells D
        (.value (.float (.ofDecimal ⟨negative, digitsValue (ds ++ fraction), power.getD 0 - fraction.length⟩)))
        (minus negative ++ (ds ++ (point ++ mark)))
  | text {s : String} {cs : List Char} (h : SpellsChars s.toList cs) : Spells D (.value (.text s)) ('"' :: cs ++ ['"'])
  | noElements {blank : List Char} (hblank : Blank blank) : Spells D (.value (.list [])) ('[' :: blank ++ [']'])
  | list {items : List Value} {before cs : List Char} (hbefore : Blank before) (h : Spells D (.elements items) cs) :
      Spells D (.value (.list items)) ('[' :: before ++ cs ++ [']'])
  | noMembers {blank : List Char} (hblank : Blank blank) :
      Spells D (.value (.map [])) ('\x7b' :: blank ++ ['\x7d'])
  | map {fields : Fields} {before cs : List Char} (hbefore : Blank before) (h : Spells D (.members fields) cs) :
      Spells D (.value (.map fields)) ('\x7b' :: before ++ cs ++ ['\x7d'])
  | lastElement {v : Value} {cs after : List Char} (h : Spells D (.value v) cs) (hafter : Blank after) :
      Spells D (.elements [v]) (cs ++ after)
  | elements {v : Value} {items : List Value} {cs after before ds : List Char} (h : Spells D (.value v) cs)
      (hafter : Blank after) (hbefore : Blank before) (hrest : Spells D (.elements items) ds) :
      Spells D (.elements (v :: items)) (cs ++ after ++ ',' :: before ++ ds)
  | member {name : String} {v : Value} {ns before after cs : List Char} (hname : SpellsChars name.toList ns)
      (hbefore : Blank before) (hafter : Blank after) (h : Spells D (.value v) cs) :
      Spells D (.member name v) ('"' :: ns ++ '"' :: before ++ ':' :: after ++ cs)
  | lastMember {name : String} {v : Value} {cs after : List Char} (h : Spells D (.member name v) cs)
      (hafter : Blank after) : Spells D (.members [(.text name, v)]) (cs ++ after)
  | members {name : String} {v : Value} {fields : Fields} {cs after before ds : List Char}
      (h : Spells D (.member name v) cs) (hafter : Blank after) (hbefore : Blank before)
      (hrest : Spells D (.members fields) ds) :
      Spells D (.members ((.text name, v) :: fields)) (cs ++ after ++ ',' :: before ++ ds)

/-- A text that is one document: a value with blanks around it. -/
def IsDocument (D : Dialect) (s : String) (v : Value) : Prop :=
  ∃ before cs after, Blank before ∧ Spells D (.value v) cs ∧ Blank after ∧ s.toList = before ++ cs ++ after

/-- Characters that need no escape spell themselves. -/
theorem SpellsChars.self {cs : List Char} (h : ∀ c ∈ cs, c ≠ '"' ∧ c ≠ '\\' ∧ 32 ≤ c.toNat) : SpellsChars cs cs := by
  induction cs with
  | nil => exact .nil
  | cons c cs ih =>
    obtain ⟨⟨hquote, hslash, hprintable⟩, hrest⟩ := List.forall_mem_cons.mp h
    exact .cons (.plain hquote hslash hprintable) (ih hrest)

/-! ### How parts begin -/

theorem Blank.nil : Blank [] := by
  simp [Blank]

theorem IsDigits.exists_cons {ds : List Char} (h : IsDigits ds) :
    ∃ c rest, ds = c :: rest ∧ c.isDigit = true ∧ ∀ d ∈ rest, d.isDigit = true := by
  obtain ⟨hne, hdigits⟩ := h
  obtain ⟨c, rest, rfl⟩ := List.exists_cons_of_ne_nil hne
  exact ⟨c, rest, rfl, List.forall_mem_cons.mp hdigits⟩

theorem IsWhole.isDigits {ds : List Char} (h : IsWhole ds) : IsDigits ds := by
  rcases h with rfl | ⟨h, _⟩
  · exact ⟨by simp, by simp⟩
  · exact h

end Amalgam.Json
