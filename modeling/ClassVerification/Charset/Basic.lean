import ClassVerification.Charset.CodePage
import ClassVerification.Charset.Wide
import ClassVerification.Number.Read
import ClassVerification.Text.Class
import ClassVerification.Text.Utf8
import ClassVerification.Url.Punycode

/-!
Character sets: the names that they go by, and the text that bytes spell in them.
-/

namespace ClassVerification

/-- Why bytes cannot be read by the character set that is named for them. -/
inductive CharsetDefect where
  /-- No mark in front tells the order of the bytes. -/
  | unmarked (units : Wide)
  /-- A part that has to be basic is not. -/
  | notBasic (byte : UInt8) (position : Nat)
  /-- Only what is free of flaws can be read. -/
  | strict
  /-- The set is there to hold nothing. -/
  | undefined
  /-- What is named turns bytes into bytes. -/
  | ofBytes
  /-- What is named turns text into text. -/
  | ofText
  /-- A name holds NUL. -/
  | nullInName
  /-- A segment of a parameter has a number that is too long. -/
  | tooManyDigits (count : Nat)
  /-- Of the segments of a parameter only some are numbered. -/
  | mixedSegments (numberedFirst : Bool)
deriving DecidableEq, Repr

namespace CharsetDefect

def message : CharsetDefect → Text
  | .unmarked units => units.name ++ " stream does not start with BOM"
  | .notBasic byte position =>
    "'ascii' codec can't decode byte 0x" ++ Text.ofHex 2 byte.toNat ++ " in position " ++
      Text.ofNat position ++ ": ordinal not in range(128)"
  | .strict => "Unsupported error handling replace"
  | .undefined => "undefined encoding"
  | .ofBytes => []
  | .ofText => "descriptor 'translate' for 'str' objects doesn't apply to a 'bytes' object"
  | .nullInName => "embedded null character"
  | .tooManyDigits count => Number.tooManyDigitsMessage count
  | .mixedSegments numberedFirst =>
    if numberedFirst then "'<' not supported between instances of 'NoneType' and 'int'"
    else "'<' not supported between instances of 'int' and 'NoneType'"

end CharsetDefect

/-- What a name stands for that tells how bytes are to be read. -/
inductive Charset where
  /-- UTF-8, in which a mark in front may be passed over. -/
  | utf8 (passesMark : Bool)
  /-- UTF-16 or UTF-32, in an order that is fixed or told by a mark. -/
  | wide (units : Wide) (order : Option ByteOrder)
  | page (table : CodePage)
  | punycode
  /-- A character set that is known by its name alone. -/
  | foreign
  /-- A name that no bytes can be read by. -/
  | unfit (defect : CharsetDefect)
deriving DecidableEq, Repr

namespace Charset

def isNamePart (c : CodePoint) : Bool :=
  c.isUpperLatin || c.isLowerLatin || c.isDigit || c = .char '.'

/-- The runs of letters, digits and points of a name, in lower case, joined by underscores. -/
def canonical (name : Text) : Text :=
  let spaced : Text := (Text.lowerBasic name).map fun c => if isNamePart c then c else .char ' '
  Text.join "_" ((Text.split (.char ' ') spaced).filter (· != []))

/-- The proper names of the character sets that are known by their names alone: those of East Asia,
those that do not hold ASCII, UTF-7, and the notations for escapes. -/
def foreignNames : List Text := List.map Text.ofString [
  "big5", "big5hkscs", "cp037", "cp1026", "cp1140", "cp273", "cp424", "cp500", "cp875", "cp932",
  "cp949", "cp950", "euc_jis_2004", "euc_jisx0213", "euc_jp", "euc_kr", "gb18030", "gb2312", "gbk",
  "hz", "iso2022_jp", "iso2022_jp_1", "iso2022_jp_2", "iso2022_jp_2004", "iso2022_jp_3",
  "iso2022_jp_ext", "iso2022_kr", "johab", "raw_unicode_escape", "shift_jis", "shift_jis_2004",
  "shift_jisx0213", "unicode_escape", "utf_7"]

/-- The other names of those character sets. -/
def foreignAliases : List Text := List.map Text.ofString [
  "037", "1026", "1140", "273", "424", "500", "932", "936", "949", "950", "big5_hkscs", "big5_tw",
  "chinese", "cp1361", "cp936", "csbig5", "csibm037", "csibm1026", "csibm273", "csibm424",
  "csibm500", "csiso2022jp", "csiso2022kr", "csiso58gb231280", "csshiftjis", "ebcdic_cp_be",
  "ebcdic_cp_ca", "ebcdic_cp_ch", "ebcdic_cp_he", "ebcdic_cp_nl", "ebcdic_cp_us", "ebcdic_cp_wt",
  "euc_cn", "euc_jis2004", "euccn", "eucgb2312_cn", "eucjis2004", "eucjisx0213", "eucjp", "euckr",
  "gb18030_2000", "gb2312_1980", "gb2312_80", "hkscs", "hz_gb", "hz_gb_2312", "hzgb", "ibm037",
  "ibm039", "ibm1026", "ibm1140", "ibm273", "ibm424", "ibm500", "iso2022jp", "iso2022jp_1",
  "iso2022jp_2", "iso2022jp_2004", "iso2022jp_3", "iso2022jp_ext", "iso2022kr", "iso_2022_jp",
  "iso_2022_jp_1", "iso_2022_jp_2", "iso_2022_jp_2004", "iso_2022_jp_3", "iso_2022_jp_ext",
  "iso_2022_kr", "iso_ir_58", "jisx0213", "korean", "ks_c_5601", "ks_c_5601_1987", "ks_x_1001",
  "ksc5601", "ksx1001", "ms1361", "ms932", "ms936", "ms949", "ms950", "ms_kanji", "mskanji",
  "s_jis", "s_jis_2004", "s_jisx0213", "shiftjis", "shiftjis2004", "shiftjisx0213", "sjis",
  "sjis_2004", "sjisx0213", "u7", "u_jis", "uhc", "ujis", "unicode_1_1_utf_7", "utf7",
  "x_mac_japanese", "x_mac_korean", "x_mac_simp_chinese", "x_mac_trad_chinese"]

/-- A proper name, the other names, and what they stand for. -/
structure Entry where
  name : Text
  aliases : List Text
  charset : Charset

/-- The names that stand for one thing each, but for those of tables. -/
def entries : List Entry := [
  ⟨"utf_8", ["cp65001", "u8", "utf", "utf8", "utf8_ucs2", "utf8_ucs4"], .utf8 false⟩,
  ⟨"utf_8_sig", [], .utf8 true⟩,
  ⟨"utf_16", ["u16", "utf16"], .wide .utf16 none⟩,
  ⟨"utf_16_le", ["unicodelittleunmarked", "utf_16le"], .wide .utf16 (some .little)⟩,
  ⟨"utf_16_be", ["unicodebigunmarked", "utf_16be"], .wide .utf16 (some .big)⟩,
  ⟨"utf_32", ["u32", "utf32"], .wide .utf32 none⟩,
  ⟨"utf_32_le", ["utf_32le"], .wide .utf32 (some .little)⟩,
  ⟨"utf_32_be", ["utf_32be"], .wide .utf32 (some .big)⟩,
  ⟨"charmap", [], .page .latin1⟩,
  ⟨"punycode", [], .punycode⟩,
  ⟨"idna", [], .unfit .strict⟩,
  ⟨"undefined", [], .unfit .undefined⟩,
  ⟨"rot_13", ["rot13"], .unfit .ofText⟩,
  ⟨"hex_codec", ["hex"], .unfit .ofBytes⟩,
  ⟨"base64_codec", ["base64", "base_64"], .unfit .ofBytes⟩,
  ⟨"bz2_codec", ["bz2"], .unfit .ofBytes⟩,
  ⟨"quopri_codec", ["quopri", "quoted_printable", "quotedprintable"], .unfit .ofBytes⟩,
  ⟨"uu_codec", ["uu"], .unfit .ofBytes⟩,
  ⟨"zlib_codec", ["zip", "zlib"], .unfit .ofBytes⟩]

/-- What a name stands for that is not a proper one. -/
def ofAlias? (name : Text) : Option Charset :=
  match entries.find? (·.aliases.contains name) with
  | some entry => some entry.charset
  | none =>
    match CodePage.all.find? (·.aliases.contains name) with
    | some table => some (.page table)
    | none => if foreignAliases.contains name then some .foreign else none

/-- What a proper name stands for. -/
def ofProperName? (name : Text) : Option Charset :=
  match entries.find? (·.name = name) with
  | some entry => some entry.charset
  | none =>
    match CodePage.all.find? (·.name = name) with
    | some table => some (.page table)
    | none => if foreignNames.contains name then some .foreign else none

/-- What a name stands for. In other names, not in the proper ones, a point may stand for an
underscore. -/
def ofName? (name : Text) : Option Charset :=
  let name := canonical name
  let spaced : Text := name.map fun c => if c = .char '.' then .char '_' else c
  ((ofAlias? name).or (ofAlias? spaced)).or (ofProperName? name)

def utf8Mark : List UInt8 := [0xEF, 0xBB, 0xBF]

/-- What stands for a flaw. -/
def replacement : CodePoint := .char '\uFFFD'

def withReplacements (characters : List (Option CodePoint)) : Text :=
  characters.map (·.getD replacement)

/-- The code points with the numbers of bytes, if they are ASCII. -/
def basic (b : UInt8) : Option CodePoint := if b < 0x80 then CodePoint.ofNat? b.toNat else none

/-- The text of bytes in Punycode. What stands behind the last hyphen has to be basic. -/
def decodePunycode (bytes : List UInt8) : Except CharsetDefect Text :=
  let (back, front) := bytes.reverse.span (· != 0x2D)
  let start := (front.drop 1).reverse
  let digits := back.reverse
  match digits.zipIdx.find? fun (b, _) => !(b < 0x80) with
  | some (b, i) => .error (.notBasic b i)
  | none =>
    .ok (Punycode.readLossyFrom (withReplacements (start.map basic)) 0x80 0 72 true
      (withReplacements (digits.map basic)))

/-- The text of some bytes, with U+FFFD for what is none. What a character set makes of them whose
table is not known has to be told. -/
def decode (foreign : Text) (bytes : List UInt8) : Charset → Except CharsetDefect Text
  | .utf8 false => .ok (Utf8.decodeReplacing bytes)
  | .utf8 true =>
    if bytes.length < 3 && bytes.isPrefixOf utf8Mark then .ok []
    else .ok (Utf8.decodeReplacing (if utf8Mark.isPrefixOf bytes then bytes.drop 3 else bytes))
  | .wide units (some order) => .ok (withReplacements (units.read order bytes))
  | .wide units none =>
    match units.marked? bytes with
    | some (order, bytes) => .ok (withReplacements (units.read order bytes))
    | none => if bytes.length < units.width then .ok [replacement] else .error (.unmarked units)
  | .page table => .ok (withReplacements (table.read bytes))
  | .punycode => decodePunycode bytes
  | .foreign => .ok foreign
  | .unfit defect => .error defect

/-- The text of bytes without a flaw, if they spell one in a character set that is known. -/
def decode? (bytes : List UInt8) : Charset → Option Text
  | .utf8 passesMark =>
    (Utf8.decode (if passesMark && utf8Mark.isPrefixOf bytes then bytes.drop 3 else bytes)).toOption
  | .wide units (some order) => (units.read order bytes).mapM id
  | .wide units none =>
    let (order, bytes) := (units.marked? bytes).getD (.little, bytes)
    (units.read order bytes).mapM id
  | .page table => (table.read bytes).mapM id
  | _ => none

end Charset

end ClassVerification
