/-
The command line. The message comes from standard input; the first argument, if there is one,
names the configuration file.
-/
import MessageHead.Report

namespace MessageHead.CommandLine

/-- The bytes of a file, unless it cannot be read. -/
def readFile? (name : Text) : IO (Option Bytes) := do
  try return some (← IO.FS.readBinFile (String.ofList name)).toList
  catch _ => return none

/-- Everything that is left of a stream. -/
partial def readAll (stream : IO.FS.Stream) (before : ByteArray) : IO ByteArray := do
  let chunk ← stream.read 65536
  if chunk.isEmpty then return before else readAll stream (before ++ chunk)

/-- The configuration that the arguments name. -/
def readConfig : List String → IO Config
  | [] => return {}
  | name :: _ => return Config.ofFile (← readFile? name.toList)

end MessageHead.CommandLine

def main (args : List String) : IO UInt32 := do
  let config ← MessageHead.CommandLine.readConfig args
  let tables ← config.mediaTypeFiles.mapM MessageHead.CommandLine.readFile?
  let input ← MessageHead.CommandLine.readAll (← IO.getStdin) .empty
  let run := MessageHead.Report.run config tables input.toList
  for notice in run.notices do
    IO.eprintln (String.ofList notice)
  IO.print (String.ofList run.output)
  if run.succeeded then return 0
  IO.eprintln (String.ofList MessageHead.Report.inputError)
  return 1
