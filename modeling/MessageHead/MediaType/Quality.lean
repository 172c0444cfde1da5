/-
The weight of a media type among others, from its quality parameter.
-/
import MessageHead.MediaType.Basic
import MessageHead.Numeric.Single
import MessageHead.Text.Blank

namespace MessageHead.MediaType

/-- The quality, a number from 0 to 1. Without a quality parameter, or when that is no such
number, the quality is 1. -/
def quality (m : MediaType) : Single :=
  (((m.parameter? qualityName).bind fun q => Single.ofText? (Text.trim q)).filter
    Single.inUnitInterval).getD .one

end MessageHead.MediaType
