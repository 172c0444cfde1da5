/-
The charsets a header can name. Six are defined here to the byte; the others follow the
common table of legacy charsets.
-/
import MessageHead.Charset.Legacy.EucJp
import MessageHead.Charset.Legacy.Gb18030
import MessageHead.Charset.Legacy.Iso2022Jp
import MessageHead.Charset.Legacy.SingleByte
import MessageHead.Charset.Legacy.TwoByte

namespace MessageHead

/-- A charset of the common table of legacy charsets. -/
inductive Charset.Legacy where
  | singleByte (table : SingleByte)
  | gbk | gb18030 | big5 | eucJp | iso2022Jp | shiftJis | eucKr
deriving DecidableEq, Repr

/-- A charset. -/
inductive Charset where
  | usAscii
  | iso8859_1
  | utf8
  /-- UTF-16 whose first two bytes may tell the byte order. -/
  | utf16
  | utf16BE
  | utf16LE
  | legacy (l : Charset.Legacy)
deriving DecidableEq, Repr

namespace Charset

/-- The name of a legacy charset. -/
def Legacy.name : Legacy → String
  | .singleByte table => table.name
  | .gbk => "GBK"
  | .gb18030 => "gb18030"
  | .big5 => "Big5"
  | .eucJp => "EUC-JP"
  | .iso2022Jp => "ISO-2022-JP"
  | .shiftJis => "Shift_JIS"
  | .eucKr => "EUC-KR"

/-- The name written into headers. -/
def name : Charset → Text
  | .usAscii => "US-ASCII".toList
  | .iso8859_1 => "ISO-8859-1".toList
  | .utf8 => "UTF-8".toList
  | .utf16 => "UTF-16".toList
  | .utf16BE => "UTF-16BE".toList
  | .utf16LE => "UTF-16LE".toList
  | .legacy l => l.name.toList

/-- The charset is one of the common table. -/
def isLegacy : Charset → Bool
  | .legacy _ => true
  | _ => false

end Charset

end MessageHead
