/-
The report on a message: what its header fields describe and what its body is, in lines of text.
The message is read as a request.
-/
import MessageHead.Config
import MessageHead.Entity.Provider
import MessageHead.Headers.Wire
import MessageHead.Registry.Builtin
import MessageHead.Registry.Table

namespace MessageHead.Report

/-! ## Lines -/

/-- The line on the content type. -/
def contentTypeLine (config : Config) (m : Message) : Text :=
  "content type: ".toList ++ match ContentType.ofHeaders config.strictCharset m.headers with
    | .ok (some ct) =>
      ct.name ++ " (charset ".toList ++ (ct.charsetOr config.defaultCharset).name ++ [')']
    | .ok none => "none".toList
    | .error e => "invalid (".toList ++ e.message ++ [')']

/-- The lines on the cookies. -/
def cookieLines (m : Message) : List Text :=
  match Request.cookies m with
  | .ok cs => cs.map fun c =>
    "cookie: ".toList ++ c.name?.getD [] ++ " = ".toList ++ c.value?.getD []
  | .error e => ["cookies: invalid (".toList ++ e.message ++ [')']]

/-- The line on the file name of a disposition. -/
def filenameLine (registry : Registry) (filename : Text) : Text :=
  let registered := match registry.typeOfFile? filename with
    | some m => m.name
    | none => "unknown".toList
  "filename: ".toList ++ filename ++ " (registered as ".toList ++ registered ++ [')']

/-- The lines on the disposition. -/
def dispositionLines (registry : Registry) (m : Message) : List Text :=
  match (m.headers.last? dispositionName).map Disposition.parse with
  | none => []
  | some (.ok d) =>
    ("disposition: ".toList ++ d.kind) :: (d.filename.map (filenameLine registry)).toList
  | some (.error e) => ["disposition: invalid (".toList ++ e.message ++ [')']]

/-- The line on the body. -/
def entityLine (config : Config) (m : Message) : Text :=
  "entity: ".toList ++
    match ((Providers.standard config.defaultCharset).create m (.ofBytes m.body)).result with
    | .ok (some e) => match e.body with
      | .text s => "text, ".toList ++ Number.decimal s.length ++ " chars".toList
      | .bytes bs => "binary, ".toList ++ Number.decimal bs.length ++ " bytes".toList
    | .ok none => "no provider".toList
    | .error e => "failed (".toList ++ e.message ++ [')']

/-- The lines of the report. -/
def lines (config : Config) (registry : Registry) (m : Message) : List Text :=
  ("headers: ".toList ++ Number.decimal m.headers.size) :: contentTypeLine config m ::
    (cookieLines m ++ dispositionLines registry m ++ [entityLine config m])

/-- The report as text. -/
def render (config : Config) (registry : Registry) (m : Message) : Text :=
  (lines config registry m).flatMap (· ++ ['\n'])

/-! ## Runs -/

/-- The notice on a line that is no header field. -/
def notice (line : Text) : Text := "ignoring malformed header line: ".toList ++ Literal.text line

/-- The message for an input with a header line that is not UTF-8. -/
def inputError : Text :=
  "Error: Error \x7b kind: InvalidData, message: \"stream did not contain valid UTF-8\" \x7d".toList

/-- What a run comes to. -/
structure Run where
  /-- The input could be read. -/
  succeeded : Bool
  /-- The report. -/
  output : Text
  /-- The notices on what was passed over. -/
  notices : List Text
deriving DecidableEq, Repr

/-- Registers the tables that could be read and are UTF-8, after the media types known without
them. -/
def registryWith (tables : List (Option Bytes)) : Registry :=
  (tables.filterMap fun t => t.bind Utf8.decode?).foldl (fun r source => (r.load source).2) .builtin

/-- Reads a message and reports on it. `tables` are the contents of the media type files of the
configuration, none for a file that could not be read. -/
def run (config : Config) (tables : List (Option Bytes)) (input : Bytes) : Run :=
  let reading := Headers.read input
  let notices := reading.ignored.map notice
  match reading.message with
  | none => ⟨false, [], notices⟩
  | some (headers, body) => ⟨true, render config (registryWith tables) ⟨headers, body⟩, notices⟩

end MessageHead.Report
