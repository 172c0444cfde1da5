/-
The charsets of one byte a character. The lower half of each is ASCII; the upper half is a
table of 128 characters.
-/
import MessageHead.Text.Utf8

namespace MessageHead.Charset

/-- A charset of one byte a character. -/
inductive SingleByte where
  | ibm866 | iso8859_2 | iso8859_3 | iso8859_4 | iso8859_5 | iso8859_6 | iso8859_7 | iso8859_8
  | iso8859_8I | iso8859_10 | iso8859_13 | iso8859_14 | iso8859_15 | iso8859_16 | koi8R | koi8U
  | macintosh | windows874 | windows1250 | windows1251 | windows1252 | windows1253
  | windows1254 | windows1255 | windows1256 | windows1257 | windows1258 | macCyrillic
  | userDefined
deriving DecidableEq, Repr

namespace SingleByte

/-- The name written into headers. -/
def name : SingleByte → String
  | .ibm866 => "IBM866"
  | .iso8859_2 => "ISO-8859-2"
  | .iso8859_3 => "ISO-8859-3"
  | .iso8859_4 => "ISO-8859-4"
  | .iso8859_5 => "ISO-8859-5"
  | .iso8859_6 => "ISO-8859-6"
  | .iso8859_7 => "ISO-8859-7"
  | .iso8859_8 => "ISO-8859-8"
  | .iso8859_8I => "ISO-8859-8-I"
  | .iso8859_10 => "ISO-8859-10"
  | .iso8859_13 => "ISO-8859-13"
  | .iso8859_14 => "ISO-8859-14"
  | .iso8859_15 => "ISO-8859-15"
  | .iso8859_16 => "ISO-8859-16"
  | .koi8R => "KOI8-R"
  | .koi8U => "KOI8-U"
  | .macintosh => "macintosh"
  | .windows874 => "windows-874"
  | .windows1250 => "windows-1250"
  | .windows1251 => "windows-1251"
  | .windows1252 => "windows-1252"
  | .windows1253 => "windows-1253"
  | .windows1254 => "windows-1254"
  | .windows1255 => "windows-1255"
  | .windows1256 => "windows-1256"
  | .windows1257 => "windows-1257"
  | .windows1258 => "windows-1258"
  | .macCyrillic => "x-mac-cyrillic"
  | .userDefined => "x-user-defined"

/-- The control characters U+0080 to U+009F. -/
def controls : Text := (List.range 32).map fun i => Char.ofNat (0x80 + i)

/-- The characters of the bytes 80 to FF, U+FFFD where a byte stands for none. -/
def upperHalf : SingleByte → Text
  | .ibm866 =>
    "АБВГДЕЖЗИЙКЛМНОПРСТУФХЦЧШЩЪЫЬЭЮЯабвгдежзийклмноп░▒▓│┤╡╢╖╕╣║╗╝╜╛┐└┴┬├─┼╞╟╚╔╩╦╠═╬╧╨╤╥╙".toList ++
    "╘╒╓╫╪┘┌█▄▌▐▀рстуфхцчшщъыьэюяЁёЄєЇїЎў°∙·√№¤■\u00A0".toList
  | .iso8859_2 => controls ++
    "\u00A0Ą˘Ł¤ĽŚ§¨ŠŞŤŹ\u00ADŽŻ°ą˛ł´ľśˇ¸šşťź˝žżŔÁÂĂÄĹĆÇČÉĘËĚÍÎĎĐŃŇÓÔŐÖ×ŘŮÚŰÜÝŢßŕáâăäĺćçčé".toList ++
    "ęëěíîďđńňóôőö÷řůúűüýţ˙".toList
  | .iso8859_3 => controls ++
    "\u00A0Ħ˘£¤\uFFFDĤ§¨İŞĞĴ\u00AD\uFFFDŻ°ħ²³´µĥ·¸ışğĵ½\uFFFDżÀÁÂ\uFFFDÄĊĈÇÈÉÊËÌÍÎÏ\uFFFD".toList ++
    "ÑÒÓÔĠÖ×ĜÙÚÛÜŬŜßàáâ\uFFFDäċĉçèéêëìíîï\uFFFDñòóôġö÷ĝùúûüŭŝ˙".toList
  | .iso8859_4 => controls ++
    "\u00A0ĄĸŖ¤ĨĻ§¨ŠĒĢŦ\u00ADŽ¯°ą˛ŗ´ĩļˇ¸šēģŧŊžŋĀÁÂÃÄÅÆĮČÉĘËĖÍÎĪĐŅŌĶÔÕÖ×ØŲÚÛÜŨŪßāáâãäåæįčé".toList ++
    "ęëėíîīđņōķôõö÷øųúûüũū˙".toList
  | .iso8859_5 => controls ++
    "\u00A0ЁЂЃЄЅІЇЈЉЊЋЌ\u00ADЎЏАБВГДЕЖЗИЙКЛМНОПРСТУФХЦЧШЩЪЫЬЭЮЯабвгдежзийклмнопрстуфхцчшщ".toList ++
    "ъыьэюя№ёђѓєѕіїјљњћќ§ўџ".toList
  | .iso8859_6 => controls ++
    "\u00A0\uFFFD\uFFFD\uFFFD¤\uFFFD\uFFFD\uFFFD\uFFFD\uFFFD\uFFFD\uFFFD،\u00AD\uFFFD".toList ++
    "\uFFFD\uFFFD\uFFFD\uFFFD\uFFFD\uFFFD\uFFFD\uFFFD\uFFFD\uFFFD\uFFFD\uFFFD\u061B\uFFFD".toList ++
    "\uFFFD\uFFFD\u061F\uFFFD\u0621\u0622\u0623\u0624\u0625\u0626\u0627\u0628\u0629\u062A".toList ++
    "\u062B\u062C\u062D\u062E\u062F\u0630\u0631\u0632\u0633\u0634\u0635\u0636\u0637\u0638".toList ++
    "\u0639\u063A\uFFFD\uFFFD\uFFFD\uFFFD\uFFFD\u0640\u0641\u0642\u0643\u0644\u0645\u0646".toList ++
    "\u0647\u0648\u0649\u064A\u064B\u064C\u064D\u064E\u064F\u0650\u0651\u0652\uFFFD\uFFFD".toList ++
    "\uFFFD\uFFFD\uFFFD\uFFFD\uFFFD\uFFFD\uFFFD\uFFFD\uFFFD\uFFFD\uFFFD".toList
  | .iso8859_7 => controls ++
    "\u00A0‘’£€₯¦§¨©ͺ«¬\u00AD\uFFFD―°±²³΄΅Ά·ΈΉΊ»Ό½ΎΏΐΑΒΓΔΕΖΗΘΙΚΛΜΝΞΟΠΡ\uFFFDΣΤΥΦΧΨΩΪΫάέήί".toList ++
    "ΰαβγδεζηθικλμνξοπρςστυφχψωϊϋόύώ\uFFFD".toList
  | .iso8859_8 | .iso8859_8I => controls ++
    "\u00A0\uFFFD¢£¤¥¦§¨©×«¬\u00AD®¯°±²³´µ¶·¸¹÷»¼½¾\uFFFD\uFFFD\uFFFD\uFFFD\uFFFD\uFFFD".toList ++
    "\uFFFD\uFFFD\uFFFD\uFFFD\uFFFD\uFFFD\uFFFD\uFFFD\uFFFD\uFFFD\uFFFD\uFFFD\uFFFD\uFFFD".toList ++
    "\uFFFD\uFFFD\uFFFD\uFFFD\uFFFD\uFFFD\uFFFD\uFFFD\uFFFD\uFFFD\uFFFD\uFFFD‗\u05D0".toList ++
    "\u05D1\u05D2\u05D3\u05D4\u05D5\u05D6\u05D7\u05D8\u05D9\u05DA\u05DB\u05DC\u05DD\u05DE".toList ++
    "\u05DF\u05E0\u05E1\u05E2\u05E3\u05E4\u05E5\u05E6\u05E7\u05E8\u05E9\u05EA\uFFFD\uFFFD".toList ++
    "\u200E\u200F\uFFFD".toList
  | .iso8859_10 => controls ++
    "\u00A0ĄĒĢĪĨĶ§ĻĐŠŦŽ\u00ADŪŊ°ąēģīĩķ·ļđšŧž―ūŋĀÁÂÃÄÅÆĮČÉĘËĖÍÎÏÐŅŌÓÔÕÖŨØŲÚÛÜÝÞßāáâãäåæįčé".toList ++
    "ęëėíîïðņōóôõöũøųúûüýþĸ".toList
  | .iso8859_13 => controls ++
    "\u00A0”¢£¤„¦§Ø©Ŗ«¬\u00AD®Æ°±²³“µ¶·ø¹ŗ»¼½¾æĄĮĀĆÄÅĘĒČÉŹĖĢĶĪĻŠŃŅÓŌÕÖ×ŲŁŚŪÜŻŽßąįāćäåęēčé".toList ++
    "źėģķīļšńņóōõö÷ųłśūüżž’".toList
  | .iso8859_14 => controls ++
    "\u00A0Ḃḃ£ĊċḊ§Ẁ©ẂḋỲ\u00AD®ŸḞḟĠġṀṁ¶ṖẁṗẃṠỳẄẅṡÀÁÂÃÄÅÆÇÈÉÊËÌÍÎÏŴÑÒÓÔÕÖṪØÙÚÛÜÝŶßàáâãäåæçèé".toList ++
    "êëìíîïŵñòóôõöṫøùúûüýŷÿ".toList
  | .iso8859_15 => controls ++
    "\u00A0¡¢£€¥Š§š©ª«¬\u00AD®¯°±²³Žµ¶·ž¹º»ŒœŸ¿ÀÁÂÃÄÅÆÇÈÉÊËÌÍÎÏÐÑÒÓÔÕÖ×ØÙÚÛÜÝÞßàáâãäåæçèé".toList ++
    "êëìíîïðñòóôõö÷øùúûüýþÿ".toList
  | .iso8859_16 => controls ++
    "\u00A0ĄąŁ€„Š§š©Ș«Ź\u00ADźŻ°±ČłŽ”¶·žčș»ŒœŸżÀÁÂĂÄĆÆÇÈÉÊËÌÍÎÏĐŃÒÓÔŐÖŚŰÙÚÛÜĘȚßàáâăäćæçèé".toList ++
    "êëìíîïđńòóôőöśűùúûüęțÿ".toList
  | .koi8R =>
    "─│┌┐└┘├┤┬┴┼▀▄█▌▐░▒▓⌠■∙√≈≤≥\u00A0⌡°²·÷═║╒ё╓╔╕╖╗╘╙╚╛╜╝╞╟╠╡Ё╢╣╤╥╦╧╨╩╪╫╬©юабцдефгхийклмн".toList ++
    "опярстужвьызшэщчъЮАБЦДЕФГХИЙКЛМНОПЯРСТУЖВЬЫЗШЭЩЧЪ".toList
  | .koi8U =>
    "─│┌┐└┘├┤┬┴┼▀▄█▌▐░▒▓⌠■∙√≈≤≥\u00A0⌡°²·÷═║╒ёє╔ії╗╘╙╚╛ґў╞╟╠╡ЁЄ╣ІЇ╦╧╨╩╪ҐЎ©юабцдефгхийклмн".toList ++
    "опярстужвьызшэщчъЮАБЦДЕФГХИЙКЛМНОПЯРСТУЖВЬЫЗШЭЩЧЪ".toList
  | .macintosh =>
    "ÄÅÇÉÑÖÜáàâäãåçéèêëíìîïñóòôöõúùûü†°¢£§•¶ß®©™´¨≠ÆØ∞±≤≥¥µ∂∑∏π∫ªºΩæø¿¡¬√ƒ≈∆«»…\u00A0ÀÃÕŒ".toList ++
    "œ–—“”‘’÷◊ÿŸ⁄€‹›ﬁﬂ‡·‚„‰ÂÊÁËÈÍÎÏÌÓÔ\uF8FFÒÚÛÙıˆ˜¯˘˙˚¸˝˛ˇ".toList
  | .windows874 =>
    "€\u0081\u0082\u0083\u0084…\u0086\u0087\u0088\u0089\u008A\u008B\u008C\u008D\u008E".toList ++
    "\u008F\u0090‘’“”•–—\u0098\u0099\u009A\u009B\u009C\u009D\u009E\u009F\u00A0กขฃคฅฆงจฉชซ".toList ++
    "ฌญฎฏฐฑฒณดตถทธนบปผฝพฟภมยรฤลฦวศษสหฬอฮฯะ\u0E31าำ\u0E34\u0E35\u0E36\u0E37\u0E38\u0E39".toList ++
    "\u0E3A\uFFFD\uFFFD\uFFFD\uFFFD฿เแโใไๅๆ\u0E47\u0E48\u0E49\u0E4A\u0E4B\u0E4C\u0E4D".toList ++
    "\u0E4E๏๐๑๒๓๔๕๖๗๘๙๚๛\uFFFD\uFFFD\uFFFD\uFFFD".toList
  | .windows1250 =>
    "€\u0081‚\u0083„…†‡\u0088‰Š‹ŚŤŽŹ\u0090‘’“”•–—\u0098™š›śťžź\u00A0ˇ˘Ł¤Ą¦§¨©Ş«¬\u00AD®Ż°".toList ++
    "±˛ł´µ¶·¸ąş»Ľ˝ľżŔÁÂĂÄĹĆÇČÉĘËĚÍÎĎĐŃŇÓÔŐÖ×ŘŮÚŰÜÝŢßŕáâăäĺćçčéęëěíîďđńňóôőö÷řůúűüýţ˙".toList
  | .windows1251 =>
    "ЂЃ‚ѓ„…†‡€‰Љ‹ЊЌЋЏђ‘’“”•–—\u0098™љ›њќћџ\u00A0ЎўЈ¤Ґ¦§Ё©Є«¬\u00AD®Ї°±Ііґµ¶·ё№є»јЅѕїАБВГД".toList ++
    "ЕЖЗИЙКЛМНОПРСТУФХЦЧШЩЪЫЬЭЮЯабвгдежзийклмнопрстуфхцчшщъыьэюя".toList
  | .windows1252 =>
    "€\u0081‚ƒ„…†‡ˆ‰Š‹Œ\u008DŽ\u008F\u0090‘’“”•–—˜™š›œ\u009DžŸ\u00A0¡¢£¤¥¦§¨©ª«¬\u00AD®¯°".toList ++
    "±²³´µ¶·¸¹º»¼½¾¿ÀÁÂÃÄÅÆÇÈÉÊËÌÍÎÏÐÑÒÓÔÕÖ×ØÙÚÛÜÝÞßàáâãäåæçèéêëìíîïðñòóôõö÷øùúûüýþÿ".toList
  | .windows1253 =>
    "€\u0081‚ƒ„…†‡\u0088‰\u008A‹\u008C\u008D\u008E\u008F\u0090‘’“”•–—\u0098™\u009A›\u009C".toList ++
    "\u009D\u009E\u009F\u00A0΅Ά£¤¥¦§¨©\uFFFD«¬\u00AD®―°±²³΄µ¶·ΈΉΊ»Ό½ΎΏΐΑΒΓΔΕΖΗΘΙΚΛΜΝΞΟΠΡ".toList ++
    "\uFFFDΣΤΥΦΧΨΩΪΫάέήίΰαβγδεζηθικλμνξοπρςστυφχψωϊϋόύώ\uFFFD".toList
  | .windows1254 =>
    "€\u0081‚ƒ„…†‡ˆ‰Š‹Œ\u008D\u008E\u008F\u0090‘’“”•–—˜™š›œ\u009D\u009EŸ\u00A0¡¢£¤¥¦§¨©ª«".toList ++
    "¬\u00AD®¯°±²³´µ¶·¸¹º»¼½¾¿ÀÁÂÃÄÅÆÇÈÉÊËÌÍÎÏĞÑÒÓÔÕÖ×ØÙÚÛÜİŞßàáâãäåæçèéêëìíîïğñòóôõö÷øùú".toList ++
    "ûüışÿ".toList
  | .windows1255 =>
    "€\u0081‚ƒ„…†‡ˆ‰\u008A‹\u008C\u008D\u008E\u008F\u0090‘’“”•–—˜™\u009A›\u009C\u009D".toList ++
    "\u009E\u009F\u00A0¡¢£₪¥¦§¨©×«¬\u00AD®¯°±²³´µ¶·¸¹÷»¼½¾¿\u05B0\u05B1\u05B2\u05B3\u05B4".toList ++
    "\u05B5\u05B6\u05B7\u05B8\u05B9\u05BA\u05BB\u05BC\u05BD\u05BE\u05BF\u05C0\u05C1\u05C2".toList ++
    "\u05C3\u05F0\u05F1\u05F2\u05F3\u05F4\uFFFD\uFFFD\uFFFD\uFFFD\uFFFD\uFFFD\uFFFD\u05D0".toList ++
    "\u05D1\u05D2\u05D3\u05D4\u05D5\u05D6\u05D7\u05D8\u05D9\u05DA\u05DB\u05DC\u05DD\u05DE".toList ++
    "\u05DF\u05E0\u05E1\u05E2\u05E3\u05E4\u05E5\u05E6\u05E7\u05E8\u05E9\u05EA\uFFFD\uFFFD".toList ++
    "\u200E\u200F\uFFFD".toList
  | .windows1256 =>
    "€\u067E‚ƒ„…†‡ˆ‰\u0679‹Œ\u0686\u0698\u0688\u06AF‘’“”•–—\u06A9™\u0691›œ\u200C\u200D".toList ++
    "\u06BA\u00A0،¢£¤¥¦§¨©\u06BE«¬\u00AD®¯°±²³´µ¶·¸¹\u061B»¼½¾\u061F\u06C1\u0621\u0622".toList ++
    "\u0623\u0624\u0625\u0626\u0627\u0628\u0629\u062A\u062B\u062C\u062D\u062E\u062F\u0630".toList ++
    "\u0631\u0632\u0633\u0634\u0635\u0636×\u0637\u0638\u0639\u063A\u0640\u0641\u0642".toList ++
    "\u0643à\u0644â\u0645\u0646\u0647\u0648çèéêë\u0649\u064Aîï\u064B\u064C\u064D\u064Eô".toList ++
    "\u064F\u0650÷\u0651ù\u0652ûü\u200E\u200F\u06D2".toList
  | .windows1257 =>
    "€\u0081‚\u0083„…†‡\u0088‰\u008A‹\u008C¨ˇ¸\u0090‘’“”•–—\u0098™\u009A›\u009C¯˛\u009F".toList ++
    "\u00A0\uFFFD¢£¤\uFFFD¦§Ø©Ŗ«¬\u00AD®Æ°±²³´µ¶·ø¹ŗ»¼½¾æĄĮĀĆÄÅĘĒČÉŹĖĢĶĪĻŠŃŅÓŌÕÖ×ŲŁŚŪÜŻŽß".toList ++
    "ąįāćäåęēčéźėģķīļšńņóōõö÷ųłśūüżž˙".toList
  | .windows1258 =>
    "€\u0081‚ƒ„…†‡ˆ‰\u008A‹Œ\u008D\u008E\u008F\u0090‘’“”•–—˜™\u009A›œ\u009D\u009EŸ\u00A0¡".toList ++
    "¢£¤¥¦§¨©ª«¬\u00AD®¯°±²³´µ¶·¸¹º»¼½¾¿ÀÁÂĂÄÅÆÇÈÉÊË\u0300ÍÎÏĐÑ\u0309ÓÔƠÖ×ØÙÚÛÜƯ\u0303ßàá".toList ++
    "âăäåæçèéêë\u0301íîïđñ\u0323óôơö÷øùúûüư₫ÿ".toList
  | .macCyrillic =>
    "АБВГДЕЖЗИЙКЛМНОПРСТУФХЦЧШЩЪЫЬЭЮЯ†°Ґ£§•¶І®©™Ђђ≠Ѓѓ∞±≤≥іµґЈЄєЇїЉљЊњјЅ¬√ƒ≈∆«»…\u00A0ЋћЌќ".toList ++
    "ѕ–—“”‘’÷„ЎўЏџ№Ёёяабвгдежзийклмнопрстуфхцчшщъыьэю€".toList
  | .userDefined => (List.range 128).map fun i => Char.ofNat (0xF780 + i)

/-- The upper half as an array. -/
def upperChars (t : SingleByte) : Array Char := t.upperHalf.toArray

/-- The text of `bytes`. -/
def decode (t : SingleByte) (bytes : Bytes) : Text :=
  let upper := t.upperChars
  bytes.map fun b =>
    if b < 0x80 then Char.ofNat b.toNat else upper.getD (b.toNat - 0x80) Utf8.replacement

/-- The byte of a character, when it has one. -/
def encodeChar? (upper : Array Char) (c : Char) : Option Bytes :=
  if c.toNat < 0x80 then some [UInt8.ofNat c.toNat]
  else if c == Utf8.replacement then none
  else (upper.findIdx? (· == c)).map fun i => [UInt8.ofNat (0x80 + i)]

end SingleByte

end MessageHead.Charset
