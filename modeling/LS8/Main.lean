import LS8.CommandLine.Execution

/-!
# The command

The outer layer of the command line: it reads the program file, shows log
records and printed text as they come, and exits with the code of the ending.
Its arguments are read by a parser, which is given.
-/

namespace LS8.CommandLine

def logLine (record : LogRecord) : String :=
  s!"{record.severity.name} [{record.source}] {record.message}"

/-- Why the system failed to read a file.  Its codes come with either sign. -/
def readError (problem : IO.Error) : ReadError :=
  match problem with
  | .noFileOrDirectory .. => .notFound
  | .inappropriateType _ code _ => if min code (0 - code) = 21 then .isDirectory else .notDirectory
  | .invalidArgument _ code _ =>
    if min code (0 - code) = 36 then .nameTooLong else .other (toString problem)
  | _ => .other (toString problem)

def readContents (path : String) : IO (Except ReadError ByteArray) := do
  try
    return .ok (← IO.FS.readBinFile path)
  catch problem =>
    return .error (readError problem)

/-- Show the records that a request wants to see. -/
def showLog (request : Request) (records : List LogRecord) : IO Unit :=
  (Log.visible request.threshold records).forM fun record => IO.eprintln (logLine record)

def showText (text : List Char) : IO Unit := do
  unless text.isEmpty do
    IO.print (String.ofList text)
    (← IO.getStdout).flush

/-- Take turns until the run is over, showing records and text of each turn. -/
partial def follow (request : Request) (p : Progress) : IO Ending := do
  match p.turn with
  | .ended outcome =>
    showLog request outcome.log
    showText outcome.sink.text
    return .ofOutcome outcome
  | .again next =>
    showLog request next.log.toList
    showText next.sink.text
    follow request { next with sink := {}, log := #[] }

def carryOut (request : Request) : IO Ending := do
  let preparation := request.prepare (← readContents request.path)
  showLog request preparation.log
  match preparation.machine with
  | .error failure => return .error failure
  | .ok machine => follow request (.start machine {})

/-- Run the program that the arguments ask for.  The parser answers by itself to arguments
that ask for something else, and to those that it refuses. -/
def command (parser : List String → IO Request) (arguments : List String) : IO UInt32 := do
  let ending ← carryOut (← parser arguments)
  ending.lines.forM fun line => IO.eprintln line
  return ending.exitCode.toUInt32

end LS8.CommandLine
