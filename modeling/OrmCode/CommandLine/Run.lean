import OrmCode.CommandLine.Arguments
import OrmCode.Json.Printer
import OrmCode.Request
import OrmCode.Settings.Json
import OrmCode.Shell.Session
import OrmCode.TextTable

/-!
# The command line

A run reads files and its input through a system and ends with an outcome: what
it prints, and the code that it exits with.
-/

namespace OrmCode

namespace CommandLine

/-- What a run needs from outside.  A failure to read is a text. -/
structure System (m : Type → Type) where
  contentsOf : String → m (Except String String)
  input : m (Except String String)

structure Outcome where
  exitCode : Nat := 0
  output : String := ""
  errors : String := ""
  deriving DecidableEq

/-- A failure with what was being done, if that is said. -/
structure Report where
  context? : Option String := none
  cause : String
  deriving DecidableEq

namespace Report

/-- A failure during something. -/
def during (context cause : String) : Report :=
  { context? := some context, cause }

/-- A fault without context. -/
def ofFault (fault : Fault) : Report :=
  { cause := fault.message }

/-- A cause with every line four blanks further in. -/
def indented (cause : String) : String :=
  "\n".intercalate ((Text.split (· == '\n') cause).map ("    " ++ ·))

def text (report : Report) : String :=
  match report.context? with
  | none => "Error: " ++ report.cause ++ "\n"
  | some context => "Error: " ++ context ++ "\n\nCaused by:\n" ++ indented report.cause ++ "\n"

def outcome (report : Report) : Outcome :=
  { exitCode := 1, errors := report.text }

end Report

/-- What is printed when the arguments have no known form. -/
def usage : String :=
  "Usage: sqlorm [--config PATH] [--strict] " ++
    "(convert --orm TARGET [SQL | --file PATH] | request [--file PATH] | " ++
    "types --orm TARGET | targets | shell [--orm TARGET])\n"

/-- The outcome of a run whose arguments have no known form. -/
def misused : Outcome :=
  { exitCode := 2, errors := usage }

def printed (text : String) : Outcome :=
  { output := text ++ "\n" }

variable {m : Type → Type} [Monad m]

/-- Runs with effects that may end in a report. -/
abbrev Run (m : Type → Type) := ExceptT Report m

/-- Reads what a system reads, with a report where it fails. -/
def reading {α : Type} (context : String) (read : m (Except String α)) : Run m α := do
  match ← (read : m (Except String α)) with
  | .ok value => return value
  | .error cause => throw (.during context cause)

/-- The value of a result, with a report of its fault. -/
def reporting {α : Type} (context : String) : Except Fault α → Run m α
  | .ok value => return value
  | .error fault => throw (.during context fault.message)

def settings (system : System m) (invocation : Invocation) : Run m Settings := do
  let given ← match invocation.settingsFile? with
    | none => pure {}
    | some path =>
      let text ← reading ("Failed to read config file " ++ path) (system.contentsOf path)
      match Settings.ofJson text with
      | .ok given => pure given
      | .error flaw => throw (.during ("Invalid config file " ++ path) flaw.message)
  return if invocation.strict then given.strict else given

/-- The text of a file, or else of the input. -/
def contents (system : System m) : Option String → Run m String
  | some path => reading ("Failed to read " ++ path) (system.contentsOf path)
  | none => reading "Failed to read stdin" system.input

def converter (given : Settings) : Run m (Converter Id) :=
  reporting "Failed to create translator" (Converter.ofSettings given)

def target (text : String) : Run m Target :=
  match Target.ofText? text with
  | some found => return found
  | none => throw (.ofFault (.unknownTarget text))

/-- The code of a statement that is given, in a file or in the input. -/
def convert (system : System m) (given : Settings) (targetText : String)
    (sql? file? : Option String) : Run m Outcome := do
  let converter ← converter given
  let sql ← match sql? with
    | some sql => pure sql
    | none => contents system file?
  let code ← reporting "Failed to convert SQL to ORM"
    (Id.run (converter.convert targetText sql))
  return printed code

/-- The answer to a request in a file or in the input. -/
def request (system : System m) (given : Settings) (file? : Option String) : Run m Outcome := do
  let converter ← converter given
  let body ← contents system file?
  let answer := match Request.ofJson body with
    | .ok request => Id.run (request.respond converter)
    | .error fault => .refusal fault
  return { printed answer.toValue.pretty with exitCode := if answer.status = 200 then 0 else 1 }

/-- A session over the lines of the input. -/
def shell (system : System m) (given : Settings) (targetText : String) : Run m Outcome := do
  let first ← target targetText
  let session ← reporting "Failed to create translator" (Shell.Session.start given first)
  let input ← contents system none
  let (reply, fault?) := session.replies (Shell.inputLines input)
  let output := Shell.welcome first ++ reply.output
  match fault? with
  | none => return { output, errors := reply.errors }
  | some fault =>
    return {
      exitCode := 1
      output
      errors := reply.errors ++ (Report.during "Failed to rebuild translator" fault.message).text }

def perform (system : System m) (invocation : Invocation) : Run m Outcome := do
  let given ← settings system invocation
  match invocation.command with
  | .convert targetText sql? file? => convert system given targetText sql? file?
  | .request file? => request system given file?
  | .types targetText => return printed (← target targetText).typeListing.text
  | .targets => return printed Target.listing.text
  | .shell targetText => shell system given targetText

def run (system : System m) (arguments : List String) : m Outcome := do
  match Invocation.ofArguments? arguments with
  | none => return misused
  | some invocation =>
    match ← (perform system invocation).run with
    | .ok outcome => return outcome
    | .error report => return report.outcome

end CommandLine

end OrmCode
