/-
The sets of characters for which patterns have a letter or a name.
-/
import MessageHead.Property.CaseFold
import MessageHead.Property.Name

namespace MessageHead.Pattern.CharClass

/-! ## Classes of ASCII -/

/-- Decimal digits. -/
def asciiDigit : RangeSet := .between '0' '9'

/-- Blank characters. -/
def asciiBlank : RangeSet := .ofList ['\t', '\n', '\x0b', '\x0c', '\r', ' ']

/-- Letters. -/
def asciiLetter : RangeSet := .between 'A' 'Z' ∪ .between 'a' 'z'

/-- Letters and digits. -/
def asciiAlphanumeric : RangeSet := asciiDigit ∪ asciiLetter

/-- Characters of words. -/
def asciiWord : RangeSet := asciiAlphanumeric ∪ .single '_'

/-- Punctuation. -/
def asciiPunctuation : RangeSet :=
  .unions [.between '!' '/', .between ':' '@', .between '[' '\x60', .between '\x7b' '~']

/-- The classes that are written `[:name:]`. -/
def posix? (name : Text) : Option RangeSet :=
  Property.lookUp? [
    (["alnum"], asciiAlphanumeric),
    (["alpha"], asciiLetter),
    (["ascii"], .between '\x00' '\x7f'),
    (["blank"], .ofList ['\t', ' ']),
    (["cntrl"], .between '\x00' '\x1f' ∪ .single '\x7f'),
    (["digit"], asciiDigit),
    (["graph"], .between '!' '~'),
    (["lower"], .between 'a' 'z'),
    (["print"], .between ' ' '~'),
    (["punct"], asciiPunctuation),
    (["space"], asciiBlank),
    (["upper"], .between 'A' 'Z'),
    (["word"], asciiWord),
    (["xdigit"], .unions [asciiDigit, .between 'A' 'F', .between 'a' 'f'])] name

end MessageHead.Pattern.CharClass
