/-
Charset names: every charset answers to several labels, in any case and with blanks around
them.
-/
import MessageHead.Charset.Basic
import MessageHead.Error
import MessageHead.Text.Blank

namespace MessageHead.Charset

/-- The labels of each charset, in lower case. No label stands twice. -/
def labels : List (Charset × List String) := [
  (.usAscii, ["us-ascii", "ascii", "iso646-us", "ansi_x3.4-1968", "cp367", "646"]),
  (.iso8859_1, ["iso-8859-1", "iso8859-1", "iso_8859-1", "iso8859_1", "8859_1", "latin1", "l1",
    "cp819"]),
  (.utf8, ["utf-8", "utf8", "unicode-1-1-utf-8", "unicode11utf8", "unicode20utf8",
    "x-unicode20utf8"]),
  (.utf16, ["utf-16", "utf16"]),
  (.utf16BE, ["utf-16be", "utf_16be", "x-utf-16be", "unicodefffe"]),
  (.utf16LE, ["utf-16le", "utf_16le", "x-utf-16le", "csunicode", "iso-10646-ucs-2", "ucs-2",
    "unicode", "unicodefeff"]),
  (.legacy (.singleByte .ibm866), ["866", "cp866", "csibm866", "ibm866"]),
  (.legacy (.singleByte .iso8859_2), ["csisolatin2", "iso-8859-2", "iso-ir-101", "iso8859-2",
    "iso88592", "iso_8859-2", "iso_8859-2:1987", "l2", "latin2"]),
  (.legacy (.singleByte .iso8859_3), ["csisolatin3", "iso-8859-3", "iso-ir-109", "iso8859-3",
    "iso88593", "iso_8859-3", "iso_8859-3:1988", "l3", "latin3"]),
  (.legacy (.singleByte .iso8859_4), ["csisolatin4", "iso-8859-4", "iso-ir-110", "iso8859-4",
    "iso88594", "iso_8859-4", "iso_8859-4:1988", "l4", "latin4"]),
  (.legacy (.singleByte .iso8859_5), ["csisolatincyrillic", "cyrillic", "iso-8859-5",
    "iso-ir-144", "iso8859-5", "iso88595", "iso_8859-5", "iso_8859-5:1988"]),
  (.legacy (.singleByte .iso8859_6), ["arabic", "asmo-708", "csiso88596e", "csiso88596i",
    "csisolatinarabic", "ecma-114", "iso-8859-6", "iso-8859-6-e", "iso-8859-6-i", "iso-ir-127",
    "iso8859-6", "iso88596", "iso_8859-6", "iso_8859-6:1987"]),
  (.legacy (.singleByte .iso8859_7), ["csisolatingreek", "ecma-118", "elot_928", "greek",
    "greek8", "iso-8859-7", "iso-ir-126", "iso8859-7", "iso88597", "iso_8859-7",
    "iso_8859-7:1987", "sun_eu_greek"]),
  (.legacy (.singleByte .iso8859_8), ["csiso88598e", "csisolatinhebrew", "hebrew", "iso-8859-8",
    "iso-8859-8-e", "iso-ir-138", "iso8859-8", "iso88598", "iso_8859-8", "iso_8859-8:1988",
    "visual"]),
  (.legacy (.singleByte .iso8859_8I), ["csiso88598i", "iso-8859-8-i", "logical"]),
  (.legacy (.singleByte .iso8859_10), ["csisolatin6", "iso-8859-10", "iso-ir-157", "iso8859-10",
    "iso885910", "l6", "latin6"]),
  (.legacy (.singleByte .iso8859_13), ["iso-8859-13", "iso8859-13", "iso885913"]),
  (.legacy (.singleByte .iso8859_14), ["iso-8859-14", "iso8859-14", "iso885914"]),
  (.legacy (.singleByte .iso8859_15), ["csisolatin9", "iso-8859-15", "iso8859-15", "iso885915",
    "iso_8859-15", "l9"]),
  (.legacy (.singleByte .iso8859_16), ["iso-8859-16"]),
  (.legacy (.singleByte .koi8R), ["cskoi8r", "koi", "koi8", "koi8-r", "koi8_r"]),
  (.legacy (.singleByte .koi8U), ["koi8-ru", "koi8-u"]),
  (.legacy (.singleByte .macintosh), ["csmacintosh", "mac", "macintosh", "x-mac-roman"]),
  (.legacy (.singleByte .windows874), ["dos-874", "iso-8859-11", "iso8859-11", "iso885911",
    "tis-620", "windows-874"]),
  (.legacy (.singleByte .windows1250), ["cp1250", "windows-1250", "x-cp1250"]),
  (.legacy (.singleByte .windows1251), ["cp1251", "windows-1251", "x-cp1251"]),
  (.legacy (.singleByte .windows1252), ["cp1252", "csisolatin1", "ibm819", "iso-ir-100",
    "iso88591", "iso_8859-1:1987", "windows-1252", "x-cp1252"]),
  (.legacy (.singleByte .windows1253), ["cp1253", "windows-1253", "x-cp1253"]),
  (.legacy (.singleByte .windows1254), ["cp1254", "csisolatin5", "iso-8859-9", "iso-ir-148",
    "iso8859-9", "iso88599", "iso_8859-9", "iso_8859-9:1989", "l5", "latin5", "windows-1254",
    "x-cp1254"]),
  (.legacy (.singleByte .windows1255), ["cp1255", "windows-1255", "x-cp1255"]),
  (.legacy (.singleByte .windows1256), ["cp1256", "windows-1256", "x-cp1256"]),
  (.legacy (.singleByte .windows1257), ["cp1257", "windows-1257", "x-cp1257"]),
  (.legacy (.singleByte .windows1258), ["cp1258", "windows-1258", "x-cp1258"]),
  (.legacy (.singleByte .macCyrillic), ["x-mac-cyrillic", "x-mac-ukrainian"]),
  (.legacy .gbk, ["chinese", "csgb2312", "csiso58gb231280", "gb2312", "gb_2312", "gb_2312-80",
    "gbk", "iso-ir-58", "x-gbk"]),
  (.legacy .gb18030, ["gb18030"]),
  (.legacy .big5, ["big5", "big5-hkscs", "cn-big5", "csbig5", "x-x-big5"]),
  (.legacy .eucJp, ["cseucpkdfmtjapanese", "euc-jp", "x-euc-jp"]),
  (.legacy .iso2022Jp, ["csiso2022jp", "iso-2022-jp"]),
  (.legacy .shiftJis, ["csshiftjis", "ms932", "ms_kanji", "shift-jis", "shift_jis", "sjis",
    "windows-31j", "x-sjis"]),
  (.legacy .eucKr, ["cseuckr", "csksc56011987", "euc-kr", "iso-ir-149", "korean",
    "ks_c_5601-1987", "ks_c_5601-1989", "ksc5601", "ksc_5601", "windows-949"]),
  (.legacy (.singleByte .userDefined), ["x-user-defined"])]

/-- The charset with that label, which is in lower case. -/
def ofLabel? (label : Text) : Option Charset :=
  (labels.find? fun (_, names) => names.any fun name => name.toList == label).map Prod.fst

/-- The charset a name stands for. -/
def ofName (name : Text) : Except UnsupportedCharset Charset :=
  match ofLabel? (Text.lower (Text.trim name)) with
  | some c => .ok c
  | none => .error ⟨name⟩

end MessageHead.Charset
