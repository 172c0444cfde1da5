/-
Patterns for the names of media types. A pattern is written into a frame that ignores case and
anchors it at both ends of the name; what comes out is read as one pattern.
-/
import MessageHead.Pattern.Matcher
import MessageHead.Pattern.Parser

namespace MessageHead

/-- Patterns of which one has to match. -/
structure NamePatterns where
  exprs : List Pattern.Expr

namespace NamePatterns

/-- The pattern in its frame. -/
def framed (pattern : Text) : Text := "(?i)^(?:".toList ++ pattern ++ ")$".toList

/-- Reads patterns; the first malformed one is an error. -/
def parse (patterns : List Text) : Except Pattern.Malformed NamePatterns :=
  (patterns.mapM fun p => Pattern.Expr.parse (framed p)).map NamePatterns.mk

/-- Some pattern matches the name. -/
def matchesName (ps : NamePatterns) (name : Text) : Bool := ps.exprs.any fun p => p.matchesIn name

/-- Reads patterns that are known to be well formed. -/
def ofKnown (patterns : List String) : NamePatterns :=
  match parse (patterns.map String.toList) with
  | .ok ps => ps
  | .error _ => ⟨[]⟩

/-- The media types of texts. -/
def textual : NamePatterns := ofKnown [
  "text/.*",
  "application/(.+\\+)?json",
  "application/(.+\\+)?xml",
  "application/javascript",
  "application/x-www-form-urlencoded"]

/-- The media types of bytes that are no text. -/
def binary : NamePatterns := ofKnown [
  "application/octet-stream",
  "application/pdf",
  "application/zip",
  "application/gzip",
  "(image|audio|video|font)/.*"]

end NamePatterns

end MessageHead
