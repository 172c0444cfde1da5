/-
Names of groups: letters, digits, underscores, dots and brackets; the first character is a
letter or an underscore. They may use letters and digits of the newest version of the Unicode
standard, which the properties do not know yet.
-/
import MessageHead.Property.Derived

namespace MessageHead.Pattern

/-- Alphabetic characters of the newest version. -/
def newestLetter : RangeSet := .read
  ["88F C5C CDC A7CE-A7CF A7D2 A7D4 A7F1 10940-10959 10EC5-10EC7 10EFA-10EFB 11B60-11B67",
   "11DB0-11DDB 16EA0-16EB8 16EBB-16ED3 16FF2-16FF6 187F8-187FF 18D09-18D1E 18D80-18DF2",
   "1E6C0-1E6DE 1E6E0-1E6F5 1E6FE-1E6FF 2B73A-2B73F 2CEA2-2CEAD 323B0-33479"]

/-- Digits of the newest version. -/
def newestDigit : RangeSet := .read ["11DE0-11DE9"]

/-- The character can be anywhere in the name of a group. -/
def beginsGroupName (c : Char) : Bool :=
  c == '_' || Property.alphabetic.contains c || newestLetter.contains c

/-- The character can be in the name of a group, but not be the first one of it. -/
def continuesGroupName (c : Char) : Bool :=
  c == '.' || c == '[' || c == ']' || Property.number.contains c || newestDigit.contains c

/-- The text can name a group. -/
def isGroupName : Text → Bool
  | [] => false
  | c :: s => beginsGroupName c && s.all fun c => beginsGroupName c || continuesGroupName c

end MessageHead.Pattern
