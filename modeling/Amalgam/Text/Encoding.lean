import Amalgam.Text.Escape
import Amalgam.Text.Multibyte
import Amalgam.Text.Pages
import Amalgam.Text.Quoted
import Amalgam.Text.Utf7
/-!
# Character encodings

Decoding turns bytes into glyphs and encoding turns them back. Decoding goes byte by byte: at each position a codec
names the piece that starts there, either characters and the number of bytes they take, or a fault and the bytes it
covers. A fault either stops the decoding or, when raw bytes are kept, its bytes from 128 up become raw glyphs.

The encodings of several bytes per character are given by their schemes, which shift and look ahead.

The offset of a fault counts from the first byte of the input, and a text is encoded as a whole or not at all.
-/

namespace Amalgam.Text

/-- The encodings a file can be read and written in. -/
inductive Codec
  | utf8
  | utf8Signed
  | ascii
  | latin1
  | page (p : Page)
  | utf16
  | utf16Little
  | utf16Big
  | utf32
  | utf32Little
  | utf32Big
  | utf7
  /-- Characters from 128 up are escapes, and in plain escaped text some others too. -/
  | escaped (raw : Bool)
  | multibyte (m : Multibyte)
deriving DecidableEq, Repr

/-- Bytes that do not decode: where they start, what they are and why. -/
structure DecodeFault where
  codec : String
  start : Nat
  bytes : List UInt8
  reason : String
deriving DecidableEq, Repr

/-- Glyphs that do not encode. -/
structure EncodeFault where
  codec : String
  start : Nat
  glyphs : List Glyph
  reason : String
deriving DecidableEq, Repr

/-- What stands at one position of an encoded text. -/
inductive Piece
  | chars (cs : List Char) (size : Nat)
  | fault (bytes : List UInt8) (reason : String)
deriving DecidableEq, Repr

def Piece.char (c : Char) (size : Nat) : Piece :=
  .chars [c] size

/-! ### Single bytes -/

def asciiPiece (reason : String) (b : UInt8) : Piece :=
  if b < 128 then .char (Char.ofNat b.toNat) 1 else .fault [b] reason

def latinPiece (b : UInt8) : Piece :=
  .char (Char.ofNat b.toNat) 1

def pagePiece (chars : Array (Option Char)) (b : UInt8) : Piece :=
  match chars.getD b.toNat none with
  | some c => .char c 1
  | none => .fault [b] "character maps to <undefined>"

def latinByte? (c : Char) : Option UInt8 :=
  if c.toNat < 256 then some c.toNat.toUInt8 else none

/-- The byte of a character; of several the last. -/
def pageByte? (chars : Array (Option Char)) (c : Char) : Option UInt8 :=
  (chars.toList.reverse.findIdx? fun d => d = some c).map fun i => (chars.size - 1 - i).toUInt8

/-! ### UTF-8 -/

/-- The ranges that the bytes after a lead byte must lie in; nothing when no character starts with it. -/
def utf8Follow (b : UInt8) : Option (List (UInt8 × UInt8)) :=
  if b < 0x80 then some []
  else if b < 0xC2 then none
  else if b < 0xE0 then some [(0x80, 0xBF)]
  else if b = 0xE0 then some [(0xA0, 0xBF), (0x80, 0xBF)]
  else if b = 0xED then some [(0x80, 0x9F), (0x80, 0xBF)]
  else if b < 0xF0 then some [(0x80, 0xBF), (0x80, 0xBF)]
  else if b = 0xF0 then some [(0x90, 0xBF), (0x80, 0xBF), (0x80, 0xBF)]
  else if b < 0xF4 then some [(0x80, 0xBF), (0x80, 0xBF), (0x80, 0xBF)]
  else if b = 0xF4 then some [(0x80, 0x8F), (0x80, 0xBF), (0x80, 0xBF)]
  else none

/-- The longest start of `bs` whose bytes lie in the given ranges, one by one. -/
def fitting : List (UInt8 × UInt8) → List UInt8 → List UInt8
  | r :: rs, b :: bs => if r.1 ≤ b && b ≤ r.2 then b :: fitting rs bs else []
  | _, _ => []

/-- The bits that a lead byte adds to its character. -/
def utf8LeadBits (b : UInt8) : Nat :=
  if b < 0x80 then b.toNat else if b < 0xE0 then b.toNat - 0xC0 else if b < 0xF0 then b.toNat - 0xE0 else b.toNat - 0xF0

def utf8Piece (b : UInt8) (rest : List UInt8) : Piece :=
  match utf8Follow b with
  | none => .fault [b] "invalid start byte"
  | some ranges =>
    let tail := fitting ranges rest
    if tail.length = ranges.length then
      .char (Char.ofNat (tail.foldl (fun n t => n * 64 + (t.toNat - 0x80)) (utf8LeadBits b))) (tail.length + 1)
    -- All bytes that are left fit, so more of them could have completed the character.
    else if tail.length = rest.length then .fault (b :: tail) "unexpected end of data"
    else .fault (b :: tail) "invalid continuation byte"

def utf8Bytes (c : Char) : List UInt8 :=
  let n := c.toNat
  if n < 0x80 then [n.toUInt8]
  else if n < 0x800 then [(0xC0 + n / 64).toUInt8, (0x80 + n % 64).toUInt8]
  else if n < 0x10000 then [(0xE0 + n / 4096).toUInt8, (0x80 + n / 64 % 64).toUInt8, (0x80 + n % 64).toUInt8]
  else
    [(0xF0 + n / 262144).toUInt8, (0x80 + n / 4096 % 64).toUInt8, (0x80 + n / 64 % 64).toUInt8, (0x80 + n % 64).toUInt8]

def utf8Mark : List UInt8 := [0xEF, 0xBB, 0xBF]

/-! ### UTF-16 -/

def unit16 (bigEndian : Bool) (a b : UInt8) : Nat :=
  if bigEndian then a.toNat * 256 + b.toNat else b.toNat * 256 + a.toNat

def unitBytes (bigEndian : Bool) (n : Nat) : List UInt8 :=
  if bigEndian then [(n / 256).toUInt8, (n % 256).toUInt8] else [(n % 256).toUInt8, (n / 256).toUInt8]

def utf16Piece (bigEndian : Bool) (a : UInt8) : List UInt8 → Piece
  | [] => .fault [a] "truncated data"
  | b :: rest =>
    let unit := unit16 bigEndian a b
    if unit < 0xD800 || 0xE000 ≤ unit then .char (Char.ofNat unit) 2
    else if 0xDC00 ≤ unit then .fault [a, b] "illegal encoding"
    else
      match rest with
      | c :: d :: _ =>
        let low := unit16 bigEndian c d
        if 0xDC00 ≤ low && low < 0xE000 then .char (Char.ofNat (0x10000 + (unit - 0xD800) * 1024 + (low - 0xDC00))) 4
        else .fault [a, b] "illegal UTF-16 surrogate"
      | short => .fault (a :: b :: short) "unexpected end of data"

def utf16Bytes (bigEndian : Bool) (c : Char) : List UInt8 :=
  let n := c.toNat
  if n < 0x10000 then unitBytes bigEndian n
  else unitBytes bigEndian (0xD800 + (n - 0x10000) / 1024) ++ unitBytes bigEndian (0xDC00 + (n - 0x10000) % 1024)

/-! ### UTF-32 -/

def code32 (bigEndian : Bool) (a b c d : UInt8) : Nat :=
  let bytes := if bigEndian then [a, b, c, d] else [d, c, b, a]
  bytes.foldl (fun n byte => n * 256 + byte.toNat) 0

def codeBytes (bigEndian : Bool) (n : Nat) : List UInt8 :=
  let bytes := [(n / 16777216).toUInt8, (n / 65536 % 256).toUInt8, (n / 256 % 256).toUInt8, (n % 256).toUInt8]
  if bigEndian then bytes else bytes.reverse

def utf32Piece (bigEndian : Bool) (a : UInt8) : List UInt8 → Piece
  | b :: c :: d :: _ =>
    let code := code32 bigEndian a b c d
    if 0x110000 ≤ code then .fault [a, b, c, d] "code point not in range(0x110000)"
    else if 0xD800 ≤ code && code < 0xE000 then
      .fault [a, b, c, d] "code point in surrogate code point range(0xd800, 0xe000)"
    else .char (Char.ofNat code) 4
  | short => .fault (a :: short) "truncated data"

def utf32Bytes (bigEndian : Bool) (c : Char) : List UInt8 :=
  codeBytes bigEndian c.toNat

/-! ### Escapes and shifts -/

/-- Escaped text; bytes from 128 up stand for the characters of the same number. -/
def escapedPiece (raw : Bool) (b : UInt8) (rest : List UInt8) : Piece :=
  if b != 92 then latinPiece b
  else
    let after := (rest.take 100).map fun b => Char.ofNat b.toNat
    match if raw then Escape.readRaw after else Escape.read after with
    | .chars cs size => .chars cs (1 + size)
    | .fault size reason => .fault (b :: rest.take size) reason

/-- A code as an escape of a letter and a number of digits. -/
def escapeBytes (letter : Char) (width code : Nat) : List UInt8 :=
  92 :: letter.toNat.toUInt8 :: (hex width code).map fun c => c.toNat.toUInt8

def escapedBytes (raw : Bool) (n : Nat) : List UInt8 :=
  if 0xFFFF < n then escapeBytes 'U' 8 n
  else if 0xFF < n then escapeBytes 'u' 4 n
  else if raw then [n.toUInt8]
  else if n = 92 then [92, 92]
  else if n = 9 then [92, 116]
  else if n = 10 then [92, 110]
  else if n = 13 then [92, 114]
  else if n < 32 || 127 ≤ n then escapeBytes 'x' 2 n
  else [n.toUInt8]

def utf7Piece (b : UInt8) (rest : List UInt8) : Piece :=
  if b = 43 then
    match Utf7.shifted rest with
    | .ok (cs, size) => .chars cs (1 + size)
    | .error (size, reason) => .fault (b :: rest.take size) reason
  else asciiPiece "unexpected special character" b

/-- The number of a glyph: that of its character, and for a raw byte one among those that stand for no character. -/
def glyphCode : Glyph → Nat
  | .char c => c.toNat
  | .byte b => 0xDC00 + b.toNat

def unitsOfCode (n : Nat) : List Nat :=
  if n < 0x10000 then [n] else [0xD800 + (n - 0x10000) / 1024, 0xDC00 + (n - 0x10000) % 1024]

/-! ### Whole texts -/

/-- Decodes from one position on, after passing over `skip` bytes that belong to the piece before. -/
def decodeFrom (codec : String) (piece : UInt8 → List UInt8 → Piece) (keepRaw : Bool) :
    (skip offset : Nat) → List UInt8 → Except DecodeFault (List Glyph)
  | _, _, [] => .ok []
  | skip + 1, offset, _ :: rest => decodeFrom codec piece keepRaw skip (offset + 1) rest
  | 0, offset, b :: rest =>
    match piece b rest with
    | .chars cs size => (decodeFrom codec piece keepRaw (size - 1) (offset + 1) rest).map (cs.map Glyph.char ++ ·)
    | .fault bytes reason =>
      -- Only the bytes from 128 up at its start are kept raw; the rest of a fault is read again.
      let kept := if keepRaw then bytes.takeWhile (128 ≤ ·) else []
      if kept.isEmpty then .error ⟨codec, offset, bytes, reason⟩
      else (decodeFrom codec piece keepRaw (kept.length - 1) (offset + 1) rest).map (kept.map Glyph.byte ++ ·)

/-- The bytes of a fault that are kept raw: from its start on those from 128 up, four at most. -/
def keptRaw (keepRaw : Bool) (bytes : List UInt8) : List UInt8 :=
  if keepRaw then (bytes.take 4).takeWhile (128 ≤ ·) else []

/-- Decodes from one position and shift on. An unfinished character reaches to the end of the bytes; what of it is not
kept raw then is dropped. -/
def Scheme.decodeFrom (x : Scheme) (codec : String) (keepRaw : Bool) :
    x.Shift → (skip offset : Nat) → List UInt8 → Except DecodeFault (List Glyph)
  | _, _, _, [] => .ok []
  | shift, skip + 1, offset, _ :: rest => x.decodeFrom codec keepRaw shift skip (offset + 1) rest
  | shift, 0, offset, b :: rest =>
    match x.read shift b rest with
    | .chars cs size after =>
      (x.decodeFrom codec keepRaw after (size - 1) (offset + 1) rest).map (cs.map Glyph.char ++ ·)
    | .illegal size =>
      let bytes := (b :: rest).take size
      let kept := keptRaw keepRaw bytes
      if kept.isEmpty then .error ⟨codec, offset, bytes, "illegal multibyte sequence"⟩
      else
        (x.decodeFrom codec keepRaw shift (kept.length - 1) (offset + 1) rest).map (kept.map Glyph.byte ++ ·)
    | .incomplete =>
      let kept := keptRaw keepRaw (b :: rest)
      if kept.isEmpty then .error ⟨codec, offset, b :: rest, "incomplete multibyte sequence"⟩
      else .ok (kept.map Glyph.byte)

/-- Why a text could not be read. -/
inductive ReadFault
  | undecodable (fault : DecodeFault)
  | noByteOrderMark (encoding : String)
deriving DecidableEq, Repr

/-- An encoding with units of a fixed width, in either byte order. -/
structure Units where
  /-- The name in messages about a text whose byte order is not known. -/
  title : String
  name : String
  width : Nat
  /-- The mark in the order that has the low byte first. -/
  mark : List UInt8
  piece : Bool → UInt8 → List UInt8 → Piece
  bytes : Bool → Char → List UInt8

def Units.utf16 : Units := ⟨"UTF-16", "utf-16", 2, [0xFF, 0xFE], utf16Piece, utf16Bytes⟩

def Units.utf32 : Units := ⟨"UTF-32", "utf-32", 4, [0xFF, 0xFE, 0, 0], utf32Piece, utf32Bytes⟩

/-- The name of an encoding with its byte order. -/
def Units.ordered (u : Units) (bigEndian : Bool) : String :=
  u.name ++ (if bigEndian then "-be" else "-le")

/-- A text with a mark that gives the byte order; without one the bytes are read low byte first and then refused. -/
def Units.decodeMarked (u : Units) (keepRaw : Bool) (bytes : List UInt8) : Except ReadFault (List Glyph) :=
  let body (big : Bool) (offset : Nat) :=
    (decodeFrom (u.ordered big) (u.piece big) keepRaw 0 offset (bytes.drop offset)).mapError ReadFault.undecodable
  if u.mark.isPrefixOf bytes then body false u.width
  else if u.mark.reverse.isPrefixOf bytes then body true u.width
  else do
    let text ← body false 0
    if u.width ≤ bytes.length then throw (ReadFault.noByteOrderMark u.title)
    return text

/-- UTF-8 after an optional mark; a file that is only the start of the mark is empty. -/
def decodeSigned (keepRaw : Bool) (bytes : List UInt8) : Except ReadFault (List Glyph) :=
  if bytes.isPrefixOf utf8Mark then .ok []
  else
    let body := if utf8Mark.isPrefixOf bytes then bytes.drop 3 else bytes
    (decodeFrom "utf-8" utf8Piece keepRaw 0 0 body).mapError ReadFault.undecodable

def Codec.decode (codec : Codec) (keepRaw : Bool) (bytes : List UInt8) : Except ReadFault (List Glyph) :=
  let run (name : String) (piece : UInt8 → List UInt8 → Piece) :=
    (decodeFrom name piece keepRaw 0 0 bytes).mapError ReadFault.undecodable
  match codec with
  | .utf8 => run "utf-8" utf8Piece
  | .utf8Signed => decodeSigned keepRaw bytes
  | .ascii => run "ascii" fun b _ => asciiPiece "ordinal not in range(128)" b
  | .latin1 => run "latin-1" fun b _ => latinPiece b
  | .page p =>
    let chars := p.chars
    run "charmap" fun b _ => pagePiece chars b
  | .utf16 => Units.utf16.decodeMarked keepRaw bytes
  | .utf16Little => run "utf-16-le" (utf16Piece false)
  | .utf16Big => run "utf-16-be" (utf16Piece true)
  | .utf32 => Units.utf32.decodeMarked keepRaw bytes
  | .utf32Little => run "utf-32-le" (utf32Piece false)
  | .utf32Big => run "utf-32-be" (utf32Piece true)
  | .utf7 => run "utf7" utf7Piece
  | .escaped raw => run (if raw then "rawunicodeescape" else "unicodeescape") (escapedPiece raw)
  | .multibyte m => (m.scheme.decodeFrom m.name keepRaw m.scheme.start 0 0 bytes).mapError ReadFault.undecodable

/-- UTF-8 can express every glyph, a raw byte as itself. -/
def utf8Encoded (text : List Glyph) : List UInt8 :=
  text.flatMap fun
    | .char c => utf8Bytes c
    | .byte b => [b]

/-- One byte per glyph; a fault covers the whole run of glyphs without a byte, from its first character on when
`fromChar`. -/
def encodeBytes (codec reason : String) (fromChar : Bool) (byte? : Char → Option UInt8) (text : List Glyph) :
    Except EncodeFault (List UInt8) :=
  let fits : Glyph → Bool := fun g => match g with
    | .char c => (byte? c).isSome
    | .byte _ => false
  match text.findIdx? fun g => match g with
    | .char c => (byte? c).isNone
    | .byte _ => false with
  | some i =>
    let before := (text.take i).reverse.takeWhile fun g => !fits g
    let start := if fromChar then i else i - before.length
    .error ⟨codec, start, (text.drop start).takeWhile fun g => !fits g, reason⟩
  | none =>
    .ok (text.filterMap fun
      | .char c => byte? c
      | .byte b => some b)

/-- Units in a byte order; a raw byte has none. -/
def encodeUnits (codec : String) (bytes : Char → List UInt8) (text : List Glyph) : Except EncodeFault (List UInt8) :=
  match text.findIdx? fun g => g.char?.isNone with
  | some i => .error ⟨codec, i, (text.drop i).take 1, "surrogates not allowed"⟩
  | none => .ok ((text.filterMap Glyph.char?).flatMap bytes)

/-- Units low byte first, after the mark that says so. -/
def Units.encodeMarked (u : Units) (text : List Glyph) : Except EncodeFault (List UInt8) :=
  (encodeUnits u.name (u.bytes false) text).map (u.mark ++ ·)

/-- Encodes from one position and shift on. A raw byte stands for itself; a character that still waits for the one after
it when the text ends is not written. -/
def Scheme.encodeFrom (x : Scheme) (codec : String) :
    x.Shift → (skip offset : Nat) → List Glyph → Except EncodeFault (List UInt8)
  | _, _, _, [] => .ok []
  | shift, skip + 1, offset, _ :: rest => x.encodeFrom codec shift skip (offset + 1) rest
  | shift, 0, offset, .byte b :: rest => (x.encodeFrom codec shift 0 (offset + 1) rest).map (b :: ·)
  | shift, 0, offset, .char c :: rest =>
    match x.write shift c rest with
    | .bytes bs size after => (x.encodeFrom codec after (size - 1) (offset + 1) rest).map (bs ++ ·)
    | .illegal => .error ⟨codec, offset, [.char c], "illegal multibyte sequence"⟩
    | .incomplete => .ok []

def Codec.encode (codec : Codec) (text : List Glyph) : Except EncodeFault (List UInt8) :=
  match codec with
  | .utf8 => .ok (utf8Encoded text)
  | .utf8Signed => .ok (utf8Mark ++ utf8Encoded text)
  | .ascii => encodeBytes "ascii" "ordinal not in range(128)" true asciiByte? text
  | .latin1 => encodeBytes "latin-1" "ordinal not in range(256)" true latinByte? text
  | .page p =>
    let chars := p.chars
    encodeBytes "charmap" "character maps to <undefined>" false (pageByte? chars) text
  | .utf16 => Units.utf16.encodeMarked text
  | .utf16Little => encodeUnits "utf-16-le" (utf16Bytes false) text
  | .utf16Big => encodeUnits "utf-16-be" (utf16Bytes true) text
  | .utf32 => Units.utf32.encodeMarked text
  | .utf32Little => encodeUnits "utf-32-le" (utf32Bytes false) text
  | .utf32Big => encodeUnits "utf-32-be" (utf32Bytes true) text
  | .utf7 => .ok (Utf7.bytesOf [] (text.flatMap fun g => unitsOfCode (glyphCode g)))
  | .escaped raw => .ok (text.flatMap fun g => escapedBytes raw (glyphCode g))
  | .multibyte m => m.scheme.encodeFrom m.name m.scheme.start 0 0 text

/-! ### Names -/

def isNameChar (c : Char) : Bool :=
  c.isAlphanum || c == '.'

/-- The words of an encoding's name in lower case, with one underscore between neighbours. -/
def nameKey (name : List Char) : String :=
  let runs := name.splitBy fun a b => isNameChar a == isNameChar b
  String.ofList ((List.intercalate ['_'] (runs.filter fun run => run.all isNameChar)).map Char.toLower)

/-- The names of an encoding: its own, and others that are taken for it. -/
structure CodecName where
  codec : Codec
  name : String
  aliases : List String

def codecNames : List CodecName :=
  [⟨.utf8, "utf_8", ["u8", "utf", "utf8", "utf8_ucs2", "utf8_ucs4", "cp65001"]⟩,
   ⟨.utf8Signed, "utf_8_sig", []⟩,
   ⟨.ascii, "ascii", ["646", "ansi_x3.4_1968", "ansi_x3_4_1968", "ansi_x3.4_1986", "cp367", "csascii", "ibm367",
     "iso646_us", "iso_646.irv_1991", "iso_ir_6", "us", "us_ascii"]⟩,
   ⟨.latin1, "latin_1", ["8859", "cp819", "csisolatin1", "ibm819", "iso8859", "iso8859_1", "iso_8859_1",
     "iso_8859_1_1987", "iso_ir_100", "l1", "latin", "latin1", "charmap"]⟩,
   ⟨.utf16, "utf_16", ["u16", "utf16"]⟩,
   ⟨.utf16Little, "utf_16_le", ["unicodelittleunmarked", "utf_16le"]⟩,
   ⟨.utf16Big, "utf_16_be", ["unicodebigunmarked", "utf_16be"]⟩,
   ⟨.utf32, "utf_32", ["u32", "utf32"]⟩,
   ⟨.utf32Little, "utf_32_le", ["utf_32le"]⟩,
   ⟨.utf32Big, "utf_32_be", ["utf_32be"]⟩,
   ⟨.utf7, "utf_7", ["u7", "utf7", "unicode_1_1_utf_7"]⟩,
   ⟨.escaped false, "unicode_escape", []⟩,
   ⟨.escaped true, "raw_unicode_escape", []⟩] ++ Page.all.map (fun p => ⟨.page p, p.name, p.aliases⟩) ++
  Multibyte.all.map fun (m, name, aliases) => ⟨.multibyte m, name, aliases⟩

/-- Whether a name, in any case and punctuation, is that of an encoding or an alias of it; in an alias a point may stand
for an underscore. -/
def isNamed (given name : String) (aliases : List String) : Bool :=
  let key := nameKey given.toList
  name == key || aliases.contains key || aliases.contains (key.map fun c => if c = '.' then '_' else c)

def Codec.ofName? (given : String) : Option Codec :=
  (codecNames.find? fun n => isNamed given n.name n.aliases).map CodecName.codec

/-- Names of encodings that do not turn text into bytes. -/
def transformNames : List (String × List String) :=
  [("base64_codec", ["base64", "base_64"]), ("bz2_codec", ["bz2"]), ("hex_codec", ["hex"]),
    ("quopri_codec", ["quopri", "quoted_printable", "quotedprintable"]), ("rot_13", ["rot13"]), ("uu_codec", ["uu"]),
    ("zlib_codec", ["zip", "zlib"])]

def isTransform (given : String) : Bool :=
  transformNames.any fun (name, aliases) => isNamed given name aliases

/-- Whether a name is that of the encoding that stands for the lack of one: every text is refused. -/
def isUndefined (given : String) : Bool :=
  isNamed given "undefined" []

/-! ### Messages -/

def stretch (start size : Nat) : String :=
  if size ≤ 1 then numeral start else numeral start ++ "-" ++ numeral (start + size - 1)

def DecodeFault.message (fault : DecodeFault) : String :=
  let what := match fault.bytes with
    | [b] => "byte 0x" ++ String.ofList (hex 2 b.toNat)
    | _ => "bytes"
  "'" ++ fault.codec ++ "' codec can't decode " ++ what ++ " in position " ++ stretch fault.start fault.bytes.length ++
    ": " ++ fault.reason

def EncodeFault.message (fault : EncodeFault) : String :=
  let what := match fault.glyphs with
    | [.char c] => "character '" ++ String.ofList (escapeCode c.toNat) ++ "'"
    | [.byte b] => "character '\\u" ++ String.ofList (hex 4 (0xDC00 + b.toNat)) ++ "'"
    | _ => "characters"
  "'" ++ fault.codec ++ "' codec can't encode " ++ what ++ " in position " ++ stretch fault.start fault.glyphs.length ++
    ": " ++ fault.reason

def ReadFault.message : ReadFault → String
  | .undecodable fault => fault.message
  | .noByteOrderMark encoding => encoding ++ " stream does not start with BOM"

end Amalgam.Text
