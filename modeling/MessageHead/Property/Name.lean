/-
Properties by name, as patterns spell them: blanks, underscores, hyphens and case in a name do
not count.
-/
import MessageHead.Property.Age
import MessageHead.Property.Break

namespace MessageHead.Property

/-- `name` without an `is` in front, blanks, underscores, hyphens and characters outside ASCII,
in lower case. -/
def looseName (name : Text) : Text :=
  let kept := fun s : Text => Text.lower (s.filter fun c =>
    c.toNat < 0x80 && c != ' ' && c != '_' && c != '-')
  match name with
  | i :: s :: rest =>
    if i.toLower == 'i' && s.toLower == 's' then
      let rest := kept rest
      if rest == ['c'] then ['i', 's', 'c'] else rest
    else kept name
  | _ => kept name

/-- `name` is one of several. -/
def isOneOf (names : List String) (name : Text) : Bool := names.any fun n => n.toList == name

/-- The set that has `name` among its names. -/
def lookUp? (sets : List (List String × RangeSet)) (name : Text) : Option RangeSet :=
  (sets.find? fun s => isOneOf s.1 name).map Prod.snd

/-- The properties that a character has or has not, with their names in lower case, without
separators. -/
def binaries : List (List String × RangeSet) := [
  (["asciihexdigit", "ahex"], asciiHexDigit),
  (["alphabetic", "alpha"], alphabetic),
  (["bidicontrol", "bidic"], bidiControl),
  (["bidimirrored", "bidim"], bidiMirrored),
  (["caseignorable", "ci"], caseIgnorable),
  (["cased"], cased),
  (["changeswhencasefolded", "cwcf"], changesWhenCasefolded),
  (["changeswhencasemapped", "cwcm"], changesWhenCasemapped),
  (["changeswhenlowercased", "cwl"], changesWhenLowercased),
  (["changeswhentitlecased", "cwt"], changesWhenTitlecased),
  (["changeswhenuppercased", "cwu"], changesWhenUppercased),
  (["dash"], dash),
  (["defaultignorablecodepoint", "di"], defaultIgnorableCodePoint),
  (["deprecated", "dep"], deprecated),
  (["diacritic", "dia"], diacritic),
  (["emoji"], emoji),
  (["emojicomponent", "ecomp"], emojiComponent),
  (["emojimodifier", "emod"], emojiModifier),
  (["emojimodifierbase", "ebase"], emojiModifierBase),
  (["emojipresentation", "epres"], emojiPresentation),
  (["extendedpictographic", "extpict"], extendedPictographic),
  (["extender", "ext"], extender),
  (["graphemebase", "grbase"], graphemeBase),
  (["graphemeextend", "grext"], graphemeExtend),
  (["graphemelink", "grlink"], graphemeLink),
  (["hexdigit", "hex"], hexDigit),
  (["hyphen"], hyphen),
  (["idsbinaryoperator", "idsb"], idsBinaryOperator),
  (["idstrinaryoperator", "idst"], idsTrinaryOperator),
  (["idsunaryoperator", "idsu"], idsUnaryOperator),
  (["idcompatmathcontinue"], idCompatMathContinue),
  (["idcompatmathstart"], idCompatMathStart),
  (["idcontinue", "idc"], idContinue),
  (["idstart", "ids"], idStart),
  (["ideographic", "ideo"], ideographic),
  (["joincontrol", "joinc"], joinControl),
  (["logicalorderexception", "loe"], logicalOrderException),
  (["lowercase", "lower"], lowercase),
  (["math"], math),
  (["modifiercombiningmark", "mcm"], modifierCombiningMark),
  (["noncharactercodepoint", "nchar"], noncharacterCodePoint),
  (["otheralphabetic", "oalpha"], otherAlphabetic),
  (["otherdefaultignorablecodepoint", "odi"], otherDefaultIgnorableCodePoint),
  (["othergraphemeextend", "ogrext"], otherGraphemeExtend),
  (["otheridcontinue", "oidc"], otherIdContinue),
  (["otheridstart", "oids"], otherIdStart),
  (["otherlowercase", "olower"], otherLowercase),
  (["othermath", "omath"], otherMath),
  (["otheruppercase", "oupper"], otherUppercase),
  (["patternsyntax", "patsyn"], patternSyntax),
  (["patternwhitespace", "patws"], patternWhiteSpace),
  (["prependedconcatenationmark", "pcm"], prependedConcatenationMark),
  (["quotationmark", "qmark"], quotationMark),
  (["radical"], radical),
  (["regionalindicator", "ri"], regionalIndicator),
  (["sentenceterminal", "sterm"], sentenceTerminal),
  (["softdotted", "sd"], softDotted),
  (["terminalpunctuation", "term"], terminalPunctuation),
  (["unifiedideograph", "uideo"], unifiedIdeograph),
  (["uppercase", "upper"], uppercase),
  (["variationselector", "vs"], variationSelector),
  (["whitespace", "wspace", "space"], whiteSpace),
  (["xidcontinue", "xidc"], xidContinue),
  (["xidstart", "xids"], xidStart)]

/-- The script of that name. -/
def script? (name : Text) : Option Script := scripts.find? fun s => isOneOf s.names name

/-- The characters of a script and those it shares with others. -/
def Script.extended (s : Script) : RangeSet :=
  if s.names.contains "common" then commonUnshared
  else if s.names.contains "inherited" then inheritedUnshared
  else s.characters ∪ .read s.shared

/-- The characters of a version of the standard and of all versions before it. -/
def upToAge? (name : Text) : Option RangeSet :=
  let earlier := ages.takeWhile fun age => !isOneOf age.1 name
  (lookUp? ages name).map fun newest => .unions (newest :: earlier.map Prod.snd)

/-- What a single name stands for: a property that a character has or has not, a general
category or a script. -/
def named? (name : Text) : Option RangeSet :=
  let name := looseName name
  (lookUp? binaries name).or <| (lookUp? categories name).or <|
    (script? name).map Script.characters

/-- What a property with a value stands for. -/
def valued? (property value : Text) : Option RangeSet :=
  let property := looseName property
  let value := looseName value
  if isOneOf ["gc", "generalcategory"] property then lookUp? categories value
  else if isOneOf ["sc", "script"] property then (script? value).map Script.characters
  else if isOneOf ["scx", "scriptextensions"] property then
    (script? value).map Script.extended
  else if isOneOf ["age"] property then upToAge? value
  else if isOneOf ["gcb", "graphemeclusterbreak"] property then lookUp? graphemeBreaks value
  else if isOneOf ["wb", "wordbreak"] property then lookUp? wordBreaks value
  else if isOneOf ["sb", "sentencebreak"] property then lookUp? sentenceBreaks value
  else none

end MessageHead.Property
