import OrmCode.Sql.Grammar.Object

/-!
# Functions, triggers and procedures

The dialects define functions in ways of their own.  No code is made of any of
them, so their readers only tell whether the text has the form of one.
-/

namespace OrmCode

namespace Sql

namespace Grammar

open Reader

/-- The type of a parameter of a function.  A word that is no known type is the
name of the parameter, and its type follows. -/
def parameter (grammar : Grammar) : Reader Unit := do
  let _ ← oneOf? ["IN", "OUT", "INOUT"]
  let type ← grammar.type
  if type.custom then
    ignored grammar.type
  if ← (do if ← keyword "DEFAULT" then return true else symbol "=") then
    ignored grammar.expression

/-- A function by its name, with the types of its parameters where they are given. -/
def describedFunction (grammar : Grammar) : Reader Unit := do
  grammar.someName
  if ← symbol "(" then
    unless ← symbol ")" do
      let _ ← grammar.list grammar.parameter
      expectSymbol ")"

def functionBody (grammar : Grammar) : Reader Unit := do
  match ← peek? with
  | some (.string (.dollar _) _) =>
    if grammar.isAmong [.postgresql, .generic] then skip 1 else unexpected
  | _ => ignored (stringText grammar.dialect)

/-- The properties of a function that can be given once each. -/
inductive FunctionProperty
  | body
  | language
  | behavior
  | missingArguments
  | parallelism
  deriving DecidableEq

/-- One more property of a function than those given, if one follows. -/
def functionProperty? (grammar : Grammar) (given : List FunctionProperty) :
    Reader (Option (List FunctionProperty)) := do
  if ← keyword "AS" then
    once .body grammar.functionBody
  else if ← keyword "LANGUAGE" then
    once .language (ignored name)
  else if (← oneOf? ["IMMUTABLE", "STABLE", "VOLATILE"]).isSome then
    once .behavior (pure ())
  else if ← keywords ["CALLED", "ON", "NULL", "INPUT"] then
    once .missingArguments (pure ())
  else if ← keywords ["RETURNS", "NULL", "ON", "NULL", "INPUT"] then
    once .missingArguments (pure ())
  else if ← keyword "STRICT" then
    once .missingArguments (pure ())
  else if ← keyword "PARALLEL" then
    once .parallelism (ignored (expectOneOf ["UNSAFE", "RESTRICTED", "SAFE"]))
  else if ← keyword "RETURN" then
    once .body (ignored grammar.expression)
  else
    return none
where
  /-- A property that must not have been given before. -/
  once (property : FunctionProperty) (reader : Reader Unit) :
      Reader (Option (List FunctionProperty)) := do
    if given.contains property then unexpected
    else
      reader
      return some (property :: given)

/-- A function with properties in any order. -/
def freeFunction (grammar : Grammar) : Reader Unit := do
  grammar.someName
  expectSymbol "("
  unless ← symbol ")" do
    let _ ← grammar.list grammar.parameter
    expectSymbol ")"
  afterWords ["RETURNS"] (ignored grammar.typeText)
  ignored (iterate grammar.functionProperty? [])

/-- A function that a class of a program computes. -/
def classFunction (grammar : Grammar) : Reader Unit := do
  grammar.someName
  expectKeyword "AS"
  grammar.functionBody
  afterWords ["USING"] do
    let _ ← expectOneOf ["JAR", "FILE", "ARCHIVE"]
    ignored (stringText grammar.dialect)

/-- A function with properties in a fixed order. -/
def orderedFunction (grammar : Grammar) : Reader Unit := do
  let _ ← keywords ["IF", "NOT", "EXISTS"]
  grammar.someName
  let _ ← inParentheses (grammar.listBefore ")" (do let _ ← name; grammar.typeText))
  afterWords ["RETURNS"] (ignored grammar.typeText)
  unless ← keyword "DETERMINISTIC" do
    ignored (keywords ["NOT", "DETERMINISTIC"])
  afterWords ["LANGUAGE"] (ignored name)
  let remote ← keywords ["REMOTE", "WITH", "CONNECTION"]
  if remote then grammar.someName
  let _ ← grammar.settings "OPTIONS"
  unless remote do
    expectKeyword "AS"
    let _ ← grammar.expression
    ignored (grammar.settings "OPTIONS")

def shorthandParameter (grammar : Grammar) : Reader Unit := do
  let _ ← name
  if ← nextIs fun token => token.isSymbol ":=" || token.isSymbol "=>" then
    skip 1
    ignored grammar.expression

/-- A name that stands for an expression or a query. -/
def createShorthand (grammar : Grammar) : Reader Unit := do
  unless grammar.isAmong [.duckdb, .generic] do unexpected
  grammar.someName
  expectSymbol "("
  unless ← peekSymbol ")" do
    ignored (grammar.list grammar.shorthandParameter)
  expectSymbol ")"
  expectKeyword "AS"
  if ← keyword "TABLE" then ignored grammar.query else ignored grammar.expression

def createFunction (grammar : Grammar) : Reader Unit :=
  match grammar.dialect with
  | .hive => grammar.classFunction
  | .postgresql | .generic => grammar.freeFunction
  | .duckdb => grammar.createShorthand
  | .bigquery => grammar.orderedFunction
  | _ => unexpected

def triggerEvent (grammar : Grammar) : Reader Unit := do
  match ← expectOneOf ["INSERT", "UPDATE", "DELETE", "TRUNCATE"] with
  | "UPDATE" => afterWords ["OF"] (ignored (grammar.list name))
  | _ => return

/-- One table of changed rows that a trigger names, if one follows. -/
def transitionTable? (grammar : Grammar) : Reader (Option Unit) := do
  match ← oneOf? ["OLD", "NEW"] with
  | some _ =>
    if ← keyword "TABLE" then
      let _ ← keyword "AS"
      return some (← grammar.someName)
    else
      return none
  | none => return none

def createTrigger (grammar : Grammar) : Reader Unit := do
  unless grammar.isAmong [.postgresql, .generic] do unexpected
  grammar.someName
  unless ← keywords ["INSTEAD", "OF"] do
    ignored (expectOneOf ["BEFORE", "AFTER"])
  grammar.triggerEvent
  let _ ← many (whenRead (keyword "OR") grammar.triggerEvent)
  expectKeyword "ON"
  grammar.someName
  afterWords ["FROM"] (ignored grammar.announcedName?)
  characteristics
  afterWords ["REFERENCING"] (ignored (many grammar.transitionTable?))
  expectKeyword "FOR"
  let _ ← keyword "EACH"
  let _ ← expectOneOf ["ROW", "STATEMENT"]
  afterWords ["WHEN"] (ignored grammar.expression)
  expectKeyword "EXECUTE"
  let _ ← expectOneOf ["FUNCTION", "PROCEDURE"]
  grammar.describedFunction

/-- The parameters of a procedure up to the closing parenthesis, before which a
comma may stand. -/
def procedureParameters (grammar : Grammar) : Nat → Reader Unit
  | 0 => unexpected
  | fuel + 1 => do
    if ← wordNext then
      let _ ← name
      ignored grammar.typeText
    let more ← symbol ","
    unless ← symbol ")" do
      if more then procedureParameters grammar fuel else unexpected

/-- The statements of a list, of which at most `fuel` are read.  After a statement
the list must end or go on with a semicolon or the word END. -/
def statementsWithin (statement : Reader ParsedStatement) :
    Nat → Bool → Reader (List ParsedStatement)
  | 0, _ => unexpected
  | fuel + 1, mayFollow => do
    let separators ← many (whenRead (symbol ";") (pure ()))
    let follows := mayFollow || !separators.isEmpty
    if (← rest).isEmpty then
      return []
    else if ← onlyIf (!follows) (peekKeyword "END") then
      return []
    else if follows then
      let first ← statement
      return first :: (← statementsWithin statement fuel false)
    else
      unexpected

def statements (statement : Reader ParsedStatement) : Reader (List ParsedStatement) := do
  statementsWithin statement ((← rest).length + 1) true

def createProcedure (grammar : Grammar) : Reader Unit := do
  grammar.someName
  if ← symbol "(" then
    unless ← symbol ")" do
      grammar.procedureParameters ((← rest).length + 1)
  expectKeywords ["AS", "BEGIN"]
  let _ ← statements (grammar.deeper grammar.inColumn).statement
  expectKeyword "END"

end Grammar

end Sql

end OrmCode
