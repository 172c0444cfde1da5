/-
The attributes of a cookie that have a type of their own: lifetime, date of expiry, security
flags and version. A value that does not fit the type reads as if it were missing.
-/
import MessageHead.Cookie.Basic
import MessageHead.HttpDate
import MessageHead.Text.Blank
import MessageHead.Text.Number

namespace MessageHead

/-- When a cookie is sent along with a request from another site. -/
inductive SameSite where
  | strict
  | lax
  | none
deriving DecidableEq, Repr

namespace SameSite

/-- The value of the attribute. -/
def name : SameSite → Text
  | .strict => "Strict".toList
  | .lax => "Lax".toList
  | .none => "None".toList

/-- Reads the value of the attribute, in any case and with blanks around it. -/
def parse? (s : Text) : Option SameSite :=
  [strict, lax, none].find? fun v => Text.sameFold v.name (Text.trim s)

end SameSite

namespace Cookie

/-- The key of the comment. -/
def commentKey : Text := "Comment".toList

/-- The key of the domain. -/
def domainKey : Text := "Domain".toList

/-- The key of the path. -/
def pathKey : Text := "Path".toList

/-- The key of the lifetime. -/
def maxAgeKey : Text := "Max-Age".toList

/-- The key of the date of expiry. -/
def expiresKey : Text := "Expires".toList

/-- The key of the flag for secure connections. -/
def secureKey : Text := "Secure".toList

/-- The key of the same-site rule. -/
def sameSiteKey : Text := "SameSite".toList

/-- The key of the version. -/
def versionKey : Text := "Version".toList

/-! ## Reading -/

/-- The value of an attribute without blanks around it, read as a type. -/
def typed? {α : Type} (c : Cookie) (key : Text) (read : Text → Option α) : Option α :=
  (c.get? key).bind fun v => read (Text.trim v)

/-- The lifetime in seconds. -/
def maxAge? (c : Cookie) : Option Int := c.typed? maxAgeKey Number.signed64?

/-- The date of expiry. -/
def expires? (c : Cookie) : Option HttpDate := c.typed? expiresKey HttpDate.parse?

/-- The version. -/
def version? (c : Cookie) : Option Nat :=
  c.typed? versionKey (Number.unsigned? Number.maxUnsigned32)

/-- The same-site rule. -/
def sameSite? (c : Cookie) : Option SameSite := c.typed? sameSiteKey SameSite.parse?

/-- The cookie is for secure connections: the flag is there and does not say `false`. -/
def isSecure (c : Cookie) : Bool :=
  match OrderedTable.get? (Text.sameFold · secureKey) c.attributes with
  | none => false
  | some none => true
  | some (some v) => !Text.sameFold (Text.trim v) "false".toList

/-! ## Writing -/

/-- Sets the lifetime in seconds. -/
def setMaxAge (c : Cookie) (seconds : Int) : Cookie :=
  c.set maxAgeKey (some (Number.signedDecimal seconds))

/-- Sets the date of expiry. -/
def setExpires (c : Cookie) (d : HttpDate) : Cookie := c.set expiresKey (some d.render)

/-- Sets or removes the flag for secure connections. -/
def setSecure (c : Cookie) (secure : Bool) : Cookie :=
  if secure then c.set secureKey (some "true".toList) else c.remove secureKey

/-- Sets the same-site rule. -/
def setSameSite (c : Cookie) (s : SameSite) : Cookie := c.set sameSiteKey (some s.name)

/-- Sets the version. -/
def setVersion (c : Cookie) (n : Nat) : Cookie := c.set versionKey (some (Number.decimal n))

end Cookie

end MessageHead
