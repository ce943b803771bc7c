import PageBuild.Text.Utf8

/-! Character encodings and the names that compilers know them by. An encoding has names of its own
and aliases. Of a given name only letters, digits and dots count, in small letters and with one
underscore for whatever stands between them; in an alias a dot may stand for an underscore. -/
namespace PageBuild

structure Charset where
  /-- The name that compilers know. -/
  java : String
  names : List String
  aliases : List String
  deriving DecidableEq, Repr

namespace Charset

def renamed : List Charset := [
  ⟨"US-ASCII",
    ["ascii"],
    ["646", "ansi_x3.4_1968", "ansi_x3.4_1986", "ansi_x3_4_1968", "cp367", "csascii", "ibm367",
     "iso646_us", "iso_646.irv_1991", "iso_ir_6", "us", "us_ascii"]⟩,
  ⟨"windows-1250",
    ["cp1250"],
    ["1250", "windows_1250"]⟩,
  ⟨"windows-1251",
    ["cp1251"],
    ["1251", "windows_1251"]⟩,
  ⟨"windows-1252",
    ["cp1252"],
    ["1252", "windows_1252"]⟩,
  ⟨"windows-1253",
    ["cp1253"],
    ["1253", "windows_1253"]⟩,
  ⟨"windows-1254",
    ["cp1254"],
    ["1254", "windows_1254"]⟩,
  ⟨"windows-1255",
    ["cp1255"],
    ["1255", "windows_1255"]⟩,
  ⟨"windows-1256",
    ["cp1256"],
    ["1256", "windows_1256"]⟩,
  ⟨"windows-1257",
    ["cp1257"],
    ["1257", "windows_1257"]⟩,
  ⟨"windows-1258",
    ["cp1258"],
    ["1258", "windows_1258"]⟩,
  ⟨"ISO-8859-1",
    ["latin_1"],
    ["iso8859_1", "8859", "cp819", "csisolatin1", "ibm819", "iso8859", "iso_8859_1",
     "iso_8859_1_1987", "iso_ir_100", "l1", "latin", "latin1"]⟩,
  ⟨"ISO-8859-10",
    ["iso8859_10"],
    ["csisolatin6", "iso_8859_10", "iso_8859_10_1992", "iso_ir_157", "l6", "latin6"]⟩,
  ⟨"ISO-8859-11",
    ["iso8859_11"],
    ["iso_8859_11", "iso_8859_11_2001", "thai"]⟩,
  ⟨"ISO-8859-13",
    ["iso8859_13"],
    ["iso_8859_13", "l7", "latin7"]⟩,
  ⟨"ISO-8859-14",
    ["iso8859_14"],
    ["iso_8859_14", "iso_8859_14_1998", "iso_celtic", "iso_ir_199", "l8", "latin8"]⟩,
  ⟨"ISO-8859-15",
    ["iso8859_15"],
    ["iso_8859_15", "l9", "latin9"]⟩,
  ⟨"ISO-8859-16",
    ["iso8859_16"],
    ["iso_8859_16", "iso_8859_16_2001", "iso_ir_226", "l10", "latin10"]⟩,
  ⟨"ISO-8859-2",
    ["iso8859_2"],
    ["csisolatin2", "iso_8859_2", "iso_8859_2_1987", "iso_ir_101", "l2", "latin2"]⟩,
  ⟨"ISO-8859-3",
    ["iso8859_3"],
    ["csisolatin3", "iso_8859_3", "iso_8859_3_1988", "iso_ir_109", "l3", "latin3"]⟩,
  ⟨"ISO-8859-4",
    ["iso8859_4"],
    ["csisolatin4", "iso_8859_4", "iso_8859_4_1988", "iso_ir_110", "l4", "latin4"]⟩,
  ⟨"ISO-8859-5",
    ["iso8859_5"],
    ["csisolatincyrillic", "cyrillic", "iso_8859_5", "iso_8859_5_1988", "iso_ir_144"]⟩,
  ⟨"ISO-8859-6",
    ["iso8859_6"],
    ["arabic", "asmo_708", "csisolatinarabic", "ecma_114", "iso_8859_6", "iso_8859_6_1987",
     "iso_ir_127"]⟩,
  ⟨"ISO-8859-7",
    ["iso8859_7"],
    ["csisolatingreek", "ecma_118", "elot_928", "greek", "greek8", "iso_8859_7",
     "iso_8859_7_1987", "iso_ir_126"]⟩,
  ⟨"ISO-8859-8",
    ["iso8859_8"],
    ["csisolatinhebrew", "hebrew", "iso_8859_8", "iso_8859_8_1988", "iso_ir_138"]⟩,
  ⟨"ISO-8859-9",
    ["iso8859_9"],
    ["csisolatin5", "iso_8859_9", "iso_8859_9_1989", "iso_ir_148", "l5", "latin5"]⟩,
  ⟨"x-MacRoman",
    ["mac_roman"],
    ["macintosh", "macroman"]⟩,
  ⟨"UTF-16",
    ["utf_16"],
    ["u16", "utf16"]⟩,
  ⟨"UTF-16BE",
    ["utf_16_be"],
    ["unicodebigunmarked", "utf_16be"]⟩,
  ⟨"UTF-16LE",
    ["utf_16_le"],
    ["unicodelittleunmarked", "utf_16le"]⟩,
  ⟨"UTF-32",
    ["utf_32"],
    ["u32", "utf32"]⟩,
  ⟨"UTF-32BE",
    ["utf_32_be"],
    ["utf_32be"]⟩,
  ⟨"UTF-32LE",
    ["utf_32_le"],
    ["utf_32le"]⟩,
  ⟨"UTF-8",
    ["utf_8"],
    ["cp65001", "u8", "utf", "utf8", "utf8_ucs2", "utf8_ucs4"]⟩]

def otherNames : List String := [
  "base64_codec", "big5", "big5hkscs", "bz2_codec", "charmap", "cp037", "cp1006", "cp1026",
  "cp1125", "cp1140", "cp273", "cp424", "cp437", "cp500", "cp720", "cp737", "cp775", "cp850",
  "cp852", "cp855", "cp856", "cp857", "cp858", "cp860", "cp861", "cp862", "cp863", "cp864",
  "cp865", "cp866", "cp869", "cp874", "cp875", "cp932", "cp949", "cp950", "euc_jis_2004",
  "euc_jisx0213", "euc_jp", "euc_kr", "gb18030", "gb2312", "gbk", "hex_codec", "hp_roman8", "hz",
  "idna", "iso2022_jp", "iso2022_jp_1", "iso2022_jp_2", "iso2022_jp_2004", "iso2022_jp_3",
  "iso2022_jp_ext", "iso2022_kr", "johab", "koi8_r", "koi8_t", "koi8_u", "kz1048", "mac_arabic",
  "mac_croatian", "mac_cyrillic", "mac_farsi", "mac_greek", "mac_iceland", "mac_latin2",
  "mac_romanian", "mac_turkish", "palmos", "ptcp154", "punycode", "quopri_codec",
  "raw_unicode_escape", "rot_13", "shift_jis", "shift_jis_2004", "shift_jisx0213", "tis_620",
  "undefined", "unicode_escape", "utf_7", "utf_8_sig", "uu_codec", "zlib_codec"]

def otherAliases : List String := [
  "037", "1026", "1125", "1140", "273", "424", "437", "500", "775", "850", "852", "855", "857",
  "858", "860", "861", "862", "863", "864", "865", "866", "869", "932", "936", "949", "950",
  "base64", "base_64", "big5_hkscs", "big5_tw", "bz2", "chinese", "cp1051", "cp1361", "cp154",
  "cp866u", "cp936", "cp_gr", "cp_is", "csbig5", "csibm037", "csibm1026", "csibm273", "csibm424",
  "csibm500", "csibm855", "csibm857", "csibm858", "csibm860", "csibm861", "csibm863", "csibm864",
  "csibm865", "csibm866", "csibm869", "csiso2022jp", "csiso2022kr", "csiso58gb231280", "cskoi8r",
  "cspc775baltic", "cspc850multilingual", "cspc862latinhebrew", "cspc8codepage437", "cspcp852",
  "csptcp154", "csshiftjis", "cyrillic_asian", "ebcdic_cp_be", "ebcdic_cp_ca", "ebcdic_cp_ch",
  "ebcdic_cp_he", "ebcdic_cp_nl", "ebcdic_cp_us", "ebcdic_cp_wt", "euc_cn", "euc_jis2004",
  "euccn", "eucgb2312_cn", "eucjis2004", "eucjisx0213", "eucjp", "euckr", "gb18030_2000",
  "gb2312_1980", "gb2312_80", "hex", "hkscs", "hz_gb", "hz_gb_2312", "hzgb", "ibm037", "ibm039",
  "ibm1026", "ibm1051", "ibm1125", "ibm1140", "ibm273", "ibm424", "ibm437", "ibm500", "ibm775",
  "ibm850", "ibm852", "ibm855", "ibm857", "ibm858", "ibm860", "ibm861", "ibm862", "ibm863",
  "ibm864", "ibm865", "ibm866", "ibm869", "iso2022jp", "iso2022jp_1", "iso2022jp_2",
  "iso2022jp_2004", "iso2022jp_3", "iso2022jp_ext", "iso2022kr", "iso_2022_jp", "iso_2022_jp_1",
  "iso_2022_jp_2", "iso_2022_jp_2004", "iso_2022_jp_3", "iso_2022_jp_ext", "iso_2022_kr",
  "iso_ir_166", "iso_ir_58", "jisx0213", "korean", "ks_c_5601", "ks_c_5601_1987", "ks_x_1001",
  "ksc5601", "ksx1001", "kz_1048", "mac_centeuro", "maccentraleurope", "maccyrillic", "macgreek",
  "maciceland", "maclatin2", "macturkish", "ms1361", "ms932", "ms936", "ms949", "ms950",
  "ms_kanji", "mskanji", "pt154", "quopri", "quoted_printable", "quotedprintable", "r8",
  "rk1048", "roman8", "rot13", "ruscii", "s_jis", "s_jis_2004", "s_jisx0213", "shiftjis",
  "shiftjis2004", "shiftjisx0213", "sjis", "sjis_2004", "sjisx0213", "strk1048_2002", "tis620",
  "tis_620_0", "tis_620_2529_0", "tis_620_2529_1", "u7", "u_jis", "uhc", "ujis",
  "unicode_1_1_utf_7", "utf7", "uu", "x_mac_japanese", "x_mac_korean", "x_mac_simp_chinese",
  "x_mac_trad_chinese", "zip", "zlib"]

def isNameChar (c : Char) : Bool :=
  ('a' ≤ c && c ≤ 'z') || ('A' ≤ c && c ≤ 'Z') || ('0' ≤ c && c ≤ '9') || c = '.'

/-- The part of a name that counts. The gap tells whether something else stands before the rest,
and the start whether nothing has counted so far. -/
def plainFrom : (start gap : Bool) → List Char → List Char
  | _, _, [] => []
  | start, gap, c :: rest =>
    if isNameChar c then
      let rest := c.toLower :: plainFrom false false rest
      if gap && !start then '_' :: rest else rest
    else plainFrom start true rest

def plain (s : String) : String := String.ofList (plainFrom true false s.toList)

def undotted (s : String) : String :=
  String.ofList (s.toList.map fun c => if c = '.' then '_' else c)

/-- What a name that counts as `s` stands for: one of the renamed encodings, another known one, or
none. -/
def find? (s : String) : Option (Option Charset) :=
  let isAlias (aliases : List String) : Bool := aliases.contains s || aliases.contains (undotted s)
  let isName (names : List String) : Bool := !s.toList.contains '.' && names.contains s
  match renamed.find? fun c => isAlias c.aliases || isName c.names with
  | some c => some (some c)
  | none => if isAlias otherAliases || isName otherNames then some none else none

inductive Fault
  | unencodable (e : Utf8.Unencodable)
  | nul
  | unknown (given : String)
  deriving DecidableEq, Repr

def Fault.message : Fault → String
  | .unencodable e => e.message
  | .nul => "embedded null character"
  | .unknown given => s!"Unknown character encoding: {given}"

/-- The name that compilers know for an encoding: its other name if it has one, or else the given
name as it is. -/
def javaName (given : String) : Except Fault String :=
  match Utf8.unencodable? (fun _ => false) given.toList with
  | some e => .error (.unencodable e)
  | none =>
    if given.toList.contains (Char.ofNat 0) then .error .nul
    else match find? (plain given) with
      | none => .error (.unknown given)
      | some none => .ok given
      | some (some c) => .ok c.java

end Charset
end PageBuild
