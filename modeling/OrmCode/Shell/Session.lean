import OrmCode.Converter
import OrmCode.Text.Lines

/-!
# Sessions of the shell

A session reads lines.  A line that starts with a period while no statement is
pending is a command to the shell; other lines are joined until one of them ends
with a semicolon, and the statement is converted.
-/

namespace OrmCode

namespace Shell

/-- What the shell knows between two lines. -/
structure Session where
  settings : Settings
  converter : Converter Id
  target : Target
  pending : String := ""

/-- What the shell prints. -/
structure Reply where
  output : String := ""
  errors : String := ""
  deriving DecidableEq

/-- What follows a line. -/
inductive Turn
  | next (session : Session) (reply : Reply)
  | leave
  | fail (fault : Fault)

/-- A command to the shell. -/
inductive Command
  | help
  | showTarget
  | setTarget (name : String)
  | showStrictness
  | setStrictness (value : String)
  | clear
  | unknown (line : String)
  deriving DecidableEq

def Command.ofLine (line : String) : Command :=
  match Text.words line with
  | [".help"] => help
  | [".orm"] => showTarget
  | [".orm", name] => setTarget name
  | [".strict"] => showStrictness
  | [".strict", value] => setStrictness value
  | [".clear"] => clear
  | _ => unknown line

def linesOf (lines : List String) : String :=
  String.join (lines.map (· ++ "\n"))

def strictness (settings : Settings) : String :=
  match settings.unknownTypes, settings.unknownOperators with
  | .strict, .strict => "on"
  | .lenient, .lenient => "off"
  | types, operators =>
    "mixed (unknown types: " ++ types.name ++ ", unknown operators: " ++ operators.name ++ ")"

/-- The policy that a word asks for. -/
def policyOf? (value : String) : Option Policy :=
  match Text.lower value with
  | "on" | "true" | "1" => some .strict
  | "off" | "false" | "0" => some .lenient
  | _ => none

/-- What is printed at the start. -/
def welcome (target : Target) : String :=
  linesOf ["", "sqlorm interactive shell",
    "  Tip: Target is " ++ target.name ++
      ". End statements with ; and type .help for commands.", ""]

/-- What is printed at the end. -/
def farewell : String :=
  linesOf [""]

def helpText : String :=
  linesOf ["", "Available Commands:", "", "  Meta-commands:",
    "    .help              Show this help message",
    "    .exit, .quit       Exit the shell",
    "    .orm <target>      Switch target (sequelize|sqlalchemy)",
    "    .strict <on|off>   Fail on unmapped types and operators",
    "    .clear             Clear the screen", "", "  Statements:",
    "    CREATE TABLE users (id INT PRIMARY KEY, name VARCHAR(50));",
    "    INSERT INTO users (id, name) VALUES (1, 'Ann');",
    "    SELECT * FROM users WHERE id = 1;",
    "    UPDATE users SET name = 'Bob' WHERE id = 1;",
    "    DELETE FROM users WHERE id = 1;", "",
    "  Statements without a semicolon continue on the next line.", ""]

def clearing : String :=
  "\x1b[2J\x1b[1;1H"

namespace Session

def start (settings : Settings) (target : Target) : Except Fault Session :=
  (Converter.ofSettings settings).map fun converter => { settings, converter, target }

/-- The session goes on after printing lines. -/
def say (session : Session) (lines : List String) : Turn :=
  .next session { output := linesOf lines }

/-- The session with one policy for types and operators. -/
def withPolicy (session : Session) (policy : Policy) : Turn :=
  let settings := session.settings.withPolicy policy
  match Converter.ofSettings settings with
  | .ok converter =>
    { session with settings, converter }.say ["Strict mode: " ++ strictness settings]
  | .error fault => .fail fault

def execute (session : Session) : Command → Turn
  | .help => .next session { output := helpText }
  | .showTarget => session.say ["Current target: " ++ session.target.name]
  | .setTarget name =>
    match Target.ofText? name with
    | some target => { session with target }.say ["Target set to: " ++ target.name]
    | none => session.say ["Invalid target: " ++ (Fault.unknownTarget name).message]
  | .showStrictness => session.say ["Strict mode: " ++ strictness session.settings]
  | .setStrictness value =>
    match policyOf? value with
    | some policy => session.withPolicy policy
    | none => session.say ["Invalid value: " ++ value ++ ". Use: on or off"]
  | .clear => .next session { output := clearing }
  | .unknown line =>
    session.say ["Unknown command: " ++ line, "Type .help for available commands"]

/-- What is printed for a statement. -/
def converted (session : Session) (sql : String) : Reply :=
  match Id.run (session.converter.convertFor session.target sql) with
  | .ok code => { output := linesOf ["", code, ""] }
  | .error fault => { errors := linesOf ["Error [" ++ fault.code ++ "]: " ++ fault.message] }

/-- The pending text with one more line. -/
def extended (session : Session) (line : String) : String :=
  if session.pending = "" then line else session.pending ++ " " ++ line

/-- What a line of a statement does. -/
def read (session : Session) (line : String) : Turn :=
  let sql := session.extended line
  -- Nothing of the text is read for this, so a semicolon at the end of a comment or
  -- within a string over several lines ends the statement as well.
  if sql.toList.getLast? = some ';' then
    .next { session with pending := "" } (session.converted sql)
  else
    .next { session with pending := sql } {}

/-- What a line does. -/
def step (session : Session) (written : String) : Turn :=
  let line := Text.trim written
  if session.pending ≠ "" then session.read line
  else if line = "" then .next session {}
  else if line = ".exit" ∨ line = ".quit" then .leave
  else if line.toList.head? = some '.' then session.execute (.ofLine line)
  else session.read line

/-- What is printed for several lines, and the fault that ended the session if one did. -/
def replies (session : Session) : List String → Reply × Option Fault
  | [] => ({ output := farewell }, none)
  | line :: lines =>
    match session.step line with
    | .leave => ({ output := farewell }, none)
    | .fail fault => ({}, some fault)
    | .next following reply =>
      let (others, fault?) := following.replies lines
      ({ output := reply.output ++ others.output, errors := reply.errors ++ others.errors },
        fault?)

end Session

def inputLines (input : String) : List String :=
  Text.lines input

end Shell

end OrmCode
