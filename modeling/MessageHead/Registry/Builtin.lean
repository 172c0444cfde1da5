/-
The media types that are known without a table.
-/
import MessageHead.Registry.Basic

namespace MessageHead.Registry

/-- Type, subtype, description and extensions, in order of registration. -/
def builtinRows : List (String × String × String × List String) := [
  ("text", "plain", "Plain text", ["txt", "text", "log", "conf", "properties"]),
  ("text", "html", "HTML document", ["html", "htm"]),
  ("text", "css", "Cascading Style Sheets", ["css"]),
  ("text", "csv", "Comma-separated values", ["csv"]),
  ("text", "markdown", "Markdown document", ["md", "markdown"]),
  ("text", "xml", "XML document", ["xml"]),
  ("text", "javascript", "JavaScript source", ["js", "mjs"]),
  ("text", "calendar", "iCalendar", ["ics"]),
  ("application", "json", "JSON document", ["json"]),
  ("application", "xml", "XML document", ["xml", "xsd", "xsl"]),
  ("application", "javascript", "JavaScript source", ["js"]),
  ("application", "pdf", "Portable Document Format", ["pdf"]),
  ("application", "zip", "ZIP archive", ["zip"]),
  ("application", "gzip", "Gzip archive", ["gz", "tgz"]),
  ("application", "x-tar", "Tape archive", ["tar"]),
  ("application", "octet-stream", "Binary data", ["bin", "exe", "dll", "so", "dmg", "iso"]),
  ("application", "x-www-form-urlencoded", "URL-encoded form data", []),
  ("application", "wasm", "WebAssembly module", ["wasm"]),
  ("application", "rtf", "Rich Text Format", ["rtf"]),
  ("application", "msword", "Microsoft Word document", ["doc"]),
  ("application", "vnd.openxmlformats-officedocument.wordprocessingml.document",
    "Microsoft Word (OpenXML) document", ["docx"]),
  ("application", "vnd.openxmlformats-officedocument.spreadsheetml.sheet",
    "Microsoft Excel (OpenXML) spreadsheet", ["xlsx"]),
  ("application", "toml", "TOML document", ["toml"]),
  ("application", "yaml", "YAML document", ["yaml", "yml"]),
  ("image", "png", "PNG image", ["png"]),
  ("image", "jpeg", "JPEG image", ["jpg", "jpeg", "jpe"]),
  ("image", "gif", "GIF image", ["gif"]),
  ("image", "svg+xml", "SVG image", ["svg", "svgz"]),
  ("image", "webp", "WebP image", ["webp"]),
  ("image", "x-icon", "Icon", ["ico"]),
  ("image", "bmp", "Bitmap image", ["bmp"]),
  ("image", "tiff", "TIFF image", ["tif", "tiff"]),
  ("audio", "mpeg", "MPEG audio", ["mp3"]),
  ("audio", "ogg", "Ogg audio", ["oga", "ogg"]),
  ("audio", "wav", "Waveform audio", ["wav"]),
  ("video", "mp4", "MPEG-4 video", ["mp4", "m4v"]),
  ("video", "webm", "WebM video", ["webm"]),
  ("video", "mpeg", "MPEG video", ["mpeg", "mpg"]),
  ("font", "woff", "WOFF font", ["woff"]),
  ("font", "woff2", "WOFF2 font", ["woff2"]),
  ("font", "ttf", "TrueType font", ["ttf"]),
  ("multipart", "form-data", "Multipart form data", []),
  ("multipart", "mixed", "Multipart mixed content", []),
  ("message", "rfc822", "Email message", ["eml", "mime"])]

/-- Registers one row. -/
def registerRow (r : Registry) (row : String × String × String × List String) : Registry :=
  r.register (.ofParts row.1.toList row.2.1.toList []) row.2.2.1.toList
    (row.2.2.2.map String.toList)

/-- The registry of the media types known without a table. -/
def builtin : Registry := builtinRows.foldl registerRow {}

end MessageHead.Registry
