import TreePath.Text.Encoding

/-!
# The encoding of an XML text

XML goes by names of its own for encodings (`Charset.ofName?`), which count in any letters but only
as they are spelled. A piece of UTF-8 that cannot be read is replaced byte by byte; in any other
encoding the text ends before it (`Charset.text`).

The names of code pages are kept apart (`pageNames`), each list beside the usual name of the page,
by which `TreePath.Text.CodePage` has it.
-/

namespace TreePath.Markup.Xml

open Text (Encoding)

namespace Charset

/-! ### Names -/

/-- The encodings with the names that stand for them, blanks between them. -/
def names : List (Encoding × String) := [
  (.utf8, "utf-8 utf8"),
  (.utf7, "utf-7 unicode-1-1-utf-7 csunicode11utf7"),
  (.utf16 none, "utf-16 utf16"),
  (.utf16 (some .big), "utf-16be"),
  (.utf16 (some .little), "utf-16le"),
  (.utf32 (some .big), "utf-32 utf-32be ucs-4be"),
  (.utf32 (some .little), "utf-32le ucs-4le"),
  (.doubleByte .upperJapanese,
    "euc-jp eucjp extended_unix_code_packed_format_for_japanese cseucpkdfmtjapanese"),
  (.doubleByte .shiftRoman, "shift_jis shift-jis sjis ms_kanji csshiftjis"),
  (.doubleByte .windowsJapanese, "cp932"),
  (.shifting .japanese, "iso-2022-jp csiso2022jp"),
  (.shifting .japaneseSupplemented, "iso-2022-jp-1"),
  (.shifting .manyLanguages, "iso-2022-jp-2 csiso2022jp2"),
  (.doubleByte .upperChinese, "gb2312 euc-cn euccn cn-gb csgb2312"),
  (.doubleByte .extendedChinese, "gbk cp936 ms936 windows-936"),
  (.doubleByte .nationalChinese, "gb18030"),
  (.shifting .tildes, "hz hz-gb-2312"),
  (.doubleByte .traditional, "big5 big-5 big-five bigfive cn-big5 csbig5"),
  (.doubleByte .windowsTraditional, "cp950"),
  (.doubleByte .hongKong, "big5-hkscs big5hkscs big5-hkscs:2004 big5-hkscs:2008"),
  (.doubleByte .upperKorean, "euc-kr euckr cseuckr"),
  (.doubleByte .windowsKorean, "cp949 uhc"),
  (.shifting .korean, "iso-2022-kr csiso2022kr"),
  (.doubleByte .composedKorean, "johab cp1361")]

/-- The usual names of code pages with the names that stand for them, blanks between them. -/
def pageNames : List (String × String) := [
  ("ascii", "ascii us-ascii ansi_x3.4-1968 ansi_x3.4-1986 cp367 ibm367 iso-ir-6 iso646-us " ++
    "iso_646.irv:1991 us csascii"),
  ("latin_1", "iso-8859-1 iso_8859-1 iso_8859-1:1987 iso8859-1 iso-ir-100 cp819 ibm819 latin1 " ++
    "l1 csisolatin1 iso-latin-1"),
  ("iso8859_2", "iso-8859-2 iso_8859-2 iso_8859-2:1987 iso8859-2 iso-ir-101 latin2 l2 " ++
    "csisolatin2 iso-latin-2"),
  ("iso8859_3", "iso-8859-3 iso_8859-3 iso_8859-3:1988 iso8859-3 iso-ir-109 latin3 l3 csisolatin3"),
  ("iso8859_4", "iso-8859-4 iso_8859-4 iso_8859-4:1988 iso8859-4 iso-ir-110 latin4 l4 csisolatin4"),
  ("iso8859_5", "iso-8859-5 iso_8859-5 iso_8859-5:1988 iso8859-5 iso-ir-144 cyrillic " ++
    "csisolatincyrillic"),
  ("iso8859_6", "iso-8859-6 iso_8859-6 iso_8859-6:1987 iso8859-6 iso-ir-127 ecma-114 asmo-708 " ++
    "arabic csisolatinarabic"),
  ("iso8859_7", "iso-8859-7 iso_8859-7 iso_8859-7:1987 iso_8859-7:2003 iso8859-7 iso-ir-126 " ++
    "ecma-118 elot_928 greek8 greek csisolatingreek"),
  ("iso8859_8", "iso-8859-8 iso_8859-8 iso_8859-8:1988 iso8859-8 iso-ir-138 hebrew " ++
    "csisolatinhebrew"),
  ("iso8859_9", "iso-8859-9 iso_8859-9 iso_8859-9:1989 iso8859-9 iso-ir-148 latin5 l5 csisolatin5"),
  ("iso8859_10", "iso-8859-10 iso_8859-10 iso_8859-10:1992 iso8859-10 iso-ir-157 latin6 l6 " ++
    "csisolatin6"),
  ("iso8859_11", "iso-8859-11 iso_8859-11 iso8859-11"),
  ("iso8859_13", "iso-8859-13 iso_8859-13 iso8859-13 iso-ir-179 latin7 l7"),
  ("iso8859_14", "iso-8859-14 iso_8859-14 iso_8859-14:1998 iso8859-14 iso-ir-199 latin8 l8 " ++
    "iso-celtic"),
  ("iso8859_15", "iso-8859-15 iso_8859-15 iso_8859-15:1998 iso8859-15 iso-ir-203 latin-9"),
  ("iso8859_16", "iso-8859-16 iso_8859-16 iso_8859-16:2001 iso8859-16 iso-ir-226 latin10 l10"),
  ("koi8_r", "koi8-r cskoi8r"),
  ("koi8_u", "koi8-u"),
  ("koi8_t", "koi8-t"),
  ("cp1250", "cp1250 windows-1250 ms-ee"),
  ("cp1251", "cp1251 windows-1251 ms-cyrl"),
  ("cp1252", "cp1252 windows-1252 ms-ansi"),
  ("cp1253", "cp1253 windows-1253 ms-greek"),
  ("cp1254", "cp1254 windows-1254 ms-turk"),
  ("cp1255", "cp1255 windows-1255 ms-hebr"),
  ("cp1256", "cp1256 windows-1256 ms-arab"),
  ("cp1257", "cp1257 windows-1257 winbaltrim"),
  ("cp1258", "cp1258 windows-1258"),
  ("cp850", "cp850 ibm850 850 cspc850multilingual"),
  ("cp862", "cp862 ibm862 862 cspc862latinhebrew"),
  ("cp866", "cp866 ibm866 866 csibm866"),
  ("cp874", "cp874 windows-874"),
  ("tis_620", "tis-620 tis620 tis620-0 tis620.2529-1 tis620.2533-0 tis620.2533-1 iso-ir-166"),
  ("mac_roman", "macroman macintosh mac csmacintosh"),
  ("mac_latin2", "maccentraleurope"),
  ("mac_iceland", "maciceland"),
  ("mac_croatian", "maccroatian"),
  ("mac_romanian", "macromania"),
  ("mac_cyrillic", "maccyrillic"),
  ("mac_greek", "macgreek"),
  ("mac_turkish", "macturkish"),
  ("hp_roman8", "hp-roman8 roman8 r8 cshproman8"),
  ("ptcp154", "ptcp154 pt154 cp154 cyrillic-asian csptcp154"),
  ("kz1048", "kz-1048 rk1048 strk1048-2002 cskz1048")]

/-- The encoding of a name. -/
def ofName? (name : String) : Option Encoding :=
  let wanted := name.toLower
  let isOne (names : String) : Bool := (Text.split ' ' names).contains wanted
  match names.find? fun n ↦ isOne n.2 with
  | some n => some n.1
  | none => (pageNames.find? fun n ↦ isOne n.2).bind fun n ↦ Encoding.ofName? n.1

/-! ### Reading -/

/-- The characters of UTF-8, with the replacement character for each byte that cannot be read. -/
def replaced : List UInt8 → List Char
  | [] => []
  | b :: rest =>
    match Encoding.units8 none ((b :: rest).take 4) with
    | some c :: _ => c :: replaced (rest.drop (c.utf8Size - 1))
    | _ => '\ufffd' :: replaced rest
termination_by s => s.length
decreasing_by all_goals (simp only [List.length_drop, List.length_cons]; omega)

/-- The text of bytes, as far as they can be read. -/
def text (e : Encoding) (s : List UInt8) : List Char :=
  match e with
  | .utf8 => Text.ofChars (replaced s)
  | _ => Text.ofPoints (((e.units s).takeWhile Option.isSome).filterMap id)

end Charset

end TreePath.Markup.Xml
