import PushRegistry.Text.SingleByte
import PushRegistry.Text.Utf8

/-!
# `PushRegistry.Text.Charset`: bodies as text

Text is sent in an encoding that the content type names. A byte order mark wins over the
name and is not part of the text; a name that is not known means UTF-8; what cannot be
decoded becomes U+FFFD. The encodings of East Asia need tables of thousands of characters, which
are not part of this library: `MultibyteDecoders` stands for them.
-/

set_option autoImplicit false

namespace PushRegistry.Text

/-- The encodings in which a character takes one byte or several, by a table. -/
inductive Multibyte where
  | gbk
  | gb18030
  | big5
  | eucJp
  | iso2022Jp
  | shiftJis
  | eucKr
  deriving DecidableEq, Repr

/-- The labels of a multi-byte encoding. -/
def Multibyte.labels : Multibyte → List String
  | .gbk => ["chinese", "csgb2312", "csiso58gb231280", "gb2312", "gb_2312", "gb_2312-80", "gbk",
      "iso-ir-58", "x-gbk"]
  | .gb18030 => ["gb18030"]
  | .big5 => ["big5", "big5-hkscs", "cn-big5", "csbig5", "x-x-big5"]
  | .eucJp => ["cseucpkdfmtjapanese", "euc-jp", "x-euc-jp"]
  | .iso2022Jp => ["csiso2022jp", "iso-2022-jp"]
  | .shiftJis => ["csshiftjis", "ms932", "ms_kanji", "shift-jis", "shift_jis", "sjis",
      "windows-31j", "x-sjis"]
  | .eucKr => ["cseuckr", "csksc56011987", "euc-kr", "iso-ir-149", "korean", "ks_c_5601-1987",
      "ks_c_5601-1989", "ksc5601", "ksc_5601", "windows-949"]

/-- The multi-byte encoding with a label. -/
def Multibyte.ofLabel? (label : String) : Option Multibyte :=
  [gbk, gb18030, big5, eucJp, iso2022Jp, shiftJis, eucKr].find? (·.labels.contains label)

/-- The decoders of the multi-byte encodings. -/
class MultibyteDecoders where
  /-- The text of bytes, with U+FFFD for what cannot be decoded. -/
  decode : Multibyte → List UInt8 → List Char

/-- An encoding of text. -/
inductive Charset where
  | utf8
  | utf16 (bigEndian : Bool)
  | singleByte (table : List Nat)
  | multibyte (encoding : Multibyte)
  /-- An encoding that is refused: any text stands for one U+FFFD. -/
  | refused
  deriving DecidableEq, Repr

namespace Charset

/-- The labels of UTF-8. -/
def utf8Labels : List String :=
  ["unicode-1-1-utf-8", "unicode11utf8", "unicode20utf8", "utf-8", "utf8", "x-unicode20utf8"]

/-- The labels of UTF-16 with the less significant byte first. -/
def utf16Labels : List String :=
  ["csunicode", "iso-10646-ucs-2", "ucs-2", "unicode", "unicodefeff", "utf-16", "utf-16le"]

/-- The labels of UTF-16 with the more significant byte first. -/
def utf16BigEndianLabels : List String := ["unicodefffe", "utf-16be"]

/-- The label of bytes without a meaning of their own. -/
def userDefinedLabel : String := "x-user-defined"

/-- Bytes without a meaning of their own are characters for private use. -/
def userDefined : List Nat := (List.range 128).map (0xf780 + ·)

/-- The labels of encodings that are refused. -/
def refusedLabels : List String :=
  ["csiso2022kr", "hz-gb-2312", "iso-2022-cn", "iso-2022-cn-ext", "iso-2022-kr", "replacement"]

/-- Whether a character is a blank around a label. -/
def isLabelBlank (c : Char) : Bool := ['\t', '\n', '\x0c', '\r', ' '].contains c

/-- The encoding with a label, in any case and with blanks around it. -/
def ofLabel? (label : List Char) : Option Charset :=
  let trimmed := ((label.dropWhile isLabelBlank).reverse.dropWhile isLabelBlank).reverse
  let name := String.ofList (trimmed.map Char.toLower)
  if utf8Labels.contains name then some .utf8
  else if utf16Labels.contains name then some (.utf16 false)
  else if utf16BigEndianLabels.contains name then some (.utf16 true)
  else if refusedLabels.contains name then some .refused
  else if name = userDefinedLabel then some (.singleByte userDefined)
  else match SingleByte.table? name with
    | some table => some (.singleByte table)
    | none => (Multibyte.ofLabel? name).map .multibyte

/-- The 16-bit units of a byte sequence, and whether a single byte is left over. -/
def units (bigEndian : Bool) : List UInt8 → List Nat × Bool
  | a :: b :: rest =>
    let (us, odd) := units bigEndian rest
    ((if bigEndian then a.toNat * 256 + b.toNat else b.toNat * 256 + a.toNat) :: us, odd)
  | [_] => ([], true)
  | [] => ([], false)

/-- The characters of 16-bit units; a surrogate without its other half becomes U+FFFD. -/
def ofUnits : List Nat → List Char
  | [] => []
  | [u] => [if 0xd800 ≤ u ∧ u ≤ 0xdfff then '\uFFFD' else Char.ofNat u]
  | u :: v :: rest =>
    if 0xd800 ≤ u ∧ u ≤ 0xdbff then
      if 0xdc00 ≤ v ∧ v ≤ 0xdfff then
        Char.ofNat (0x10000 + (u - 0xd800) * 0x400 + (v - 0xdc00)) :: ofUnits rest
      else '\uFFFD' :: ofUnits (v :: rest)
    else if 0xdc00 ≤ u ∧ u ≤ 0xdfff then '\uFFFD' :: ofUnits (v :: rest)
    else Char.ofNat u :: ofUnits (v :: rest)

/-- The characters of UTF-16 text. A lone byte at the end becomes U+FFFD, and so does half of
a surrogate pair; both together become one. -/
def decodeUtf16 (bigEndian : Bool) (bytes : List UInt8) : List Char :=
  let (us, odd) := units bigEndian bytes
  let chars := ofUnits us
  let endsInHalf := us.getLast?.any fun u => 0xd800 ≤ u && u ≤ 0xdbff
  if odd && !endsInHalf then chars ++ ['\uFFFD'] else chars

/-- The characters of text in a known encoding. -/
def decodeAs [MultibyteDecoders] (charset : Charset) (bytes : List UInt8) : List Char :=
  match charset with
  | .utf8 => Utf8.decodeLossy bytes
  | .utf16 bigEndian => decodeUtf16 bigEndian bytes
  | .singleByte table => SingleByte.decode table bytes
  | .multibyte encoding => MultibyteDecoders.decode encoding bytes
  | .refused => if bytes.isEmpty then [] else ['\uFFFD']

/-- The encoding that a byte order mark names, and what follows the mark. -/
def splitMark (bytes : List UInt8) : Option (Charset × List UInt8) :=
  match bytes with
  | 0xef :: 0xbb :: 0xbf :: rest => some (.utf8, rest)
  | 0xff :: 0xfe :: rest => some (.utf16 false, rest)
  | 0xfe :: 0xff :: rest => some (.utf16 true, rest)
  | _ => none

/-- The text of a body whose encoding is declared to be `charset`. -/
def decode [MultibyteDecoders] (charset : Charset) (bytes : List UInt8) : String :=
  String.ofList <| match splitMark bytes with
    | some (marked, rest) => marked.decodeAs rest
    | none => charset.decodeAs bytes

end Charset

end PushRegistry.Text
