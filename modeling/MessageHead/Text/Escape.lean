/-
Backslash escapes: a quote or a backslash inside a quoted text is written after a backslash,
and a backslash before any character stands for that character.
-/
import MessageHead.Text.Basic

namespace MessageHead.Escape

/-- `s` as it stands between quotes. -/
def encode : Text → Text
  | [] => []
  | c :: s => if c == '"' || c == '\\' then '\\' :: c :: encode s else c :: encode s

/-- What stands between quotes as `s`. A backslash at the very end stands for itself. -/
def decode : Text → Text
  | [] => []
  | '\\' :: c :: s => c :: decode s
  | c :: s => c :: decode s

/-- `s` in quotes. -/
def quote (s : Text) : Text := '"' :: encode s ++ ['"']

end MessageHead.Escape
