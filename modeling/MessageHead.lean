import MessageHead.Charset.Basic
import MessageHead.Charset.Codec
import MessageHead.Charset.Index.Basic
import MessageHead.Charset.Index.Big5
import MessageHead.Charset.Index.EucKr
import MessageHead.Charset.Index.Gb18030
import MessageHead.Charset.Index.Jis0208
import MessageHead.Charset.Index.Jis0212
import MessageHead.Charset.Label
import MessageHead.Charset.Legacy.EucJp
import MessageHead.Charset.Legacy.Gb18030
import MessageHead.Charset.Legacy.Iso2022Jp
import MessageHead.Charset.Legacy.SingleByte
import MessageHead.Charset.Legacy.TwoByte
import MessageHead.Config
import MessageHead.ContentType
import MessageHead.Cookie.Basic
import MessageHead.Cookie.Header
import MessageHead.Cookie.Typed
import MessageHead.Disposition
import MessageHead.Element.Basic
import MessageHead.Element.Parser
import MessageHead.Element.Quoted
import MessageHead.Element.Scan
import MessageHead.Element.Window
import MessageHead.EncodedWord
import MessageHead.Entity.Basic
import MessageHead.Entity.Provider
import MessageHead.Error
import MessageHead.ExtendedValue
import MessageHead.Headers.Basic
import MessageHead.Headers.Wire
import MessageHead.HttpDate
import MessageHead.Main
import MessageHead.MediaType.Basic
import MessageHead.MediaType.Parser
import MessageHead.MediaType.Patterns
import MessageHead.MediaType.Quality
import MessageHead.Message
import MessageHead.Numeric.Single
import MessageHead.OrderedTable
import MessageHead.Pattern.Automaton.Sets
import MessageHead.Pattern.Automaton.Size
import MessageHead.Pattern.Automaton.Tally
import MessageHead.Pattern.Automaton.Words
import MessageHead.Pattern.Basic
import MessageHead.Pattern.Bracket
import MessageHead.Pattern.ByteRange
import MessageHead.Pattern.CharClass
import MessageHead.Pattern.Escape
import MessageHead.Pattern.Flags
import MessageHead.Pattern.GroupName
import MessageHead.Pattern.Matcher
import MessageHead.Pattern.Parser
import MessageHead.Proofs.ByteOffsets
import MessageHead.Proofs.CharsetCodecs
import MessageHead.Proofs.ContentTypeMessage
import MessageHead.Proofs.ContentTypeParameters
import MessageHead.Proofs.CookieFirstSegment
import MessageHead.Proofs.CookieMessage
import MessageHead.Proofs.CookiePlaces
import MessageHead.Proofs.CookieRemoval
import MessageHead.Proofs.CookieRoundTrip
import MessageHead.Proofs.CookieSetting
import MessageHead.Proofs.DispositionCharset
import MessageHead.Proofs.DispositionPlain
import MessageHead.Proofs.DispositionRoundTrip
import MessageHead.Proofs.ElementRoundTrip
import MessageHead.Proofs.ElementSegments
import MessageHead.Proofs.ElementWindow
import MessageHead.Proofs.EncodedWordFacts
import MessageHead.Proofs.EncodedWordGrammar
import MessageHead.Proofs.EncodedWordRoundTrip
import MessageHead.Proofs.ExtendedValueFacts
import MessageHead.Proofs.ExtendedValueRoundTrip
import MessageHead.Proofs.HeaderHistory
import MessageHead.Proofs.HeaderKeys
import MessageHead.Proofs.HeaderLength
import MessageHead.Proofs.HeaderMerging
import MessageHead.Proofs.HeaderWire
import MessageHead.Proofs.MediaTypeEquality
import MessageHead.Proofs.MediaTypeReaders
import MessageHead.Proofs.MediaTypeRoundTrip
import MessageHead.Proofs.NumberFacts
import MessageHead.Proofs.ParameterUpdates
import MessageHead.Proofs.PatternCase
import MessageHead.Proofs.PatternEdges
import MessageHead.Proofs.PatternFrame
import MessageHead.Proofs.PatternGrammar
import MessageHead.Proofs.PatternMatching
import MessageHead.Proofs.PatternPrefix
import MessageHead.Proofs.PatternReaders
import MessageHead.Proofs.ProviderDispatch
import MessageHead.Proofs.ProviderOrder
import MessageHead.Proofs.QuoteMode
import MessageHead.Proofs.QuotedAgreement
import MessageHead.Proofs.QuotedSplit
import MessageHead.Proofs.ReaderExtension
import MessageHead.Proofs.RegistryIndexes
import MessageHead.Proofs.RegistryLookup
import MessageHead.Proofs.RegistryOrder
import MessageHead.Proofs.RegistryReload
import MessageHead.Proofs.ScanAgreement
import MessageHead.Proofs.ScanPieces
import MessageHead.Proofs.ScanSafety
import MessageHead.Proofs.TableLayout
import MessageHead.Proofs.TextEntity
import MessageHead.Proofs.Utf16Facts
import MessageHead.Proofs.Utf8Facts
import MessageHead.Property.Age
import MessageHead.Property.Binary
import MessageHead.Property.Break
import MessageHead.Property.CaseFold
import MessageHead.Property.Derived
import MessageHead.Property.GeneralCategory
import MessageHead.Property.Name
import MessageHead.Property.Script
import MessageHead.Registry.Basic
import MessageHead.Registry.Builtin
import MessageHead.Registry.Table
import MessageHead.Report
import MessageHead.Text.Basic
import MessageHead.Text.Blank
import MessageHead.Text.CodePoint
import MessageHead.Text.Escape
import MessageHead.Text.Literal
import MessageHead.Text.Number
import MessageHead.Text.Printable
import MessageHead.Text.RangeSet
import MessageHead.Text.Utf16
import MessageHead.Text.Utf8
import MessageHead.Toml.Basic
import MessageHead.Toml.Parser
import MessageHead.Toml.Quoted
import MessageHead.Toml.Scalar
