/-!
# Arguments of the command line

An argument is an option with a value, the flag for strict settings, or a plain
word.  The first plain word chooses a command, and what may follow depends on it.
-/

namespace OrmCode

namespace CommandLine

/-- The options that take a value. -/
inductive Key
  | settings
  | target
  | file
  deriving DecidableEq

/-- What an argument is by itself.  A value may be attached to an option. -/
inductive Argument
  | option (key : Key) (attached? : Option String)
  | strict
  | escape
  | plain (text : String)
  | unknown
  deriving DecidableEq

def longKey? : String → Option Key
  | "config" => some .settings
  | "orm" => some .target
  | "file" => some .file
  | _ => none

/-- The option with a name of one letter. -/
def shortKey? : Char → Option Key
  | 'c' => some .settings
  | 'o' => some .target
  | 'f' => some .file
  | _ => none

/-- An argument with a long name, after its two dashes. -/
def longArgument (written : List Char) : Argument :=
  let name := String.ofList (written.takeWhile (· != '='))
  let attached? := match written.dropWhile (· != '=') with
    | [] => none
    | _ :: value => some (String.ofList value)
  match longKey? name with
  | some key => .option key attached?
  | none => if name = "strict" ∧ attached? = none then .strict else .unknown

/-- An argument with a short name, after its dash. -/
def shortArgument (letter : Char) (rest : List Char) : Argument :=
  match shortKey? letter with
  | none => .unknown
  | some key =>
    match rest with
    | [] => .option key none
    | '=' :: value => .option key (some (String.ofList value))
    | value => .option key (some (String.ofList value))

def Argument.ofText (text : String) : Argument :=
  match text.toList with
  | ['-', '-'] => escape
  | '-' :: '-' :: written => longArgument written
  | '-' :: letter :: rest => shortArgument letter rest
  | _ => plain text

structure Given where
  settingsFile? : Option String := none
  target? : Option String := none
  file? : Option String := none
  strict : Bool := false
  words : List String := []
  deriving DecidableEq

namespace Given

def value? (given : Given) : Key → Option String
  | .settings => given.settingsFile?
  | .target => given.target?
  | .file => given.file?

/-- Whether a text may be the value of an option: a path is not empty. -/
def isValue (key : Key) (value : String) : Bool :=
  key = .target || value != ""

/-- What is given with one more option, which must not be there yet. -/
def withValue? (given : Given) (key : Key) (value : String) : Option Given :=
  if (given.value? key).isSome || !isValue key value then none
  else match key with
    | .settings => some { given with settingsFile? := some value }
    | .target => some { given with target? := some value }
    | .file => some { given with file? := some value }

/-- What is given with the flag, which must not be there yet. -/
def withStrict? (given : Given) : Option Given :=
  if given.strict then none else some { given with strict := true }

def withWord (given : Given) (word : String) : Given :=
  { given with words := given.words ++ [word] }

end Given

/-- What is given by arguments, up to the first word if `stops`, and the arguments
after that word.  Only some options are known; after two dashes all are words. -/
def gather (keys : List Key) (stops : Bool) : Given → List String → Option (Given × List String)
  | given, [] => some (given, [])
  | given, text :: texts =>
    match Argument.ofText text with
    | .plain word =>
      if stops then some (given.withWord word, texts)
      else gather keys stops (given.withWord word) texts
    | .strict => given.withStrict?.bind fun extended => gather keys stops extended texts
    | .escape => if stops then none else some (texts.foldl Given.withWord given, [])
    | .option key (some value) =>
      if keys.contains key then
        (given.withValue? key value).bind fun extended => gather keys stops extended texts
      else none
    | .option key none =>
      match texts with
      | [] => none
      | next :: following =>
        if keys.contains key && Argument.ofText next = .plain next then
          (given.withValue? key next).bind fun extended => gather keys stops extended following
        else none
    | .unknown => none

/-- What the program is asked to do. -/
inductive Command
  | convert (target : String) (sql? file? : Option String)
  | request (file? : Option String)
  | types (target : String)
  | targets
  | shell (target : String)
  deriving DecidableEq

/-- A command with the settings it runs under. -/
structure Invocation where
  settingsFile? : Option String
  strict : Bool
  command : Command
  deriving DecidableEq

def keysOf : String → Option (List Key)
  | "convert" => some [.settings, .target, .file]
  | "request" => some [.settings, .file]
  | "types" => some [.settings, .target]
  | "targets" => some [.settings]
  | "shell" => some [.settings, .target]
  | _ => none

def command? (name : String) (given : Given) : Option Command :=
  match name, given.target?, given.file?, given.words with
  | "convert", some target, none, [] => some (.convert target none none)
  | "convert", some target, none, [sql] => some (.convert target (some sql) none)
  | "convert", some target, some file, [] => some (.convert target none (some file))
  | "request", none, file?, [] => some (.request file?)
  | "types", some target, none, [] => some (.types target)
  | "targets", none, none, [] => some .targets
  | "shell", target?, none, [] => some (.shell (target?.getD "sequelize"))
  | _, _, _, _ => none

/-- What arguments ask for, if they have the form of a command.  Settings given
after the word for the command come before those given ahead of it. -/
def Invocation.ofArguments? (arguments : List String) : Option Invocation := do
  let (outer, rest) ← gather [.settings] true {} arguments
  let name ← outer.words.head?
  let (given, _) ← gather (← keysOf name) false {} rest
  let command ← command? name given
  return {
    settingsFile? := given.settingsFile? <|> outer.settingsFile?
    strict := given.strict || outer.strict
    command }

end CommandLine

end OrmCode
