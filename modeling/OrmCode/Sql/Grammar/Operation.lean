import OrmCode.Sql.Grammar.Session

/-!
# Operations on rows and files

Merged tables, cursors, prepared statements, copies and loaded files.  No code
is made of these, so their readers only tell whether the text has the form of
one.
-/

namespace OrmCode

namespace Sql

namespace Grammar

open Reader

/-- What is done with the rows of a merged table that match or do not match. -/
def mergeClause (grammar : Grammar) : Reader Unit := do
  expectKeyword "WHEN"
  let missing ← keyword "NOT"
  expectKeyword "MATCHED"
  let bySource ← onlyIf missing (keywords ["BY", "SOURCE"])
  let _ ← onlyIf (missing && !bySource) (keywords ["BY", "TARGET"])
  afterWords ["AND"] (ignored grammar.expression)
  expectKeyword "THEN"
  let inserts := missing && !bySource
  match ← expectOneOf ["UPDATE", "INSERT", "DELETE"] with
  | "INSERT" =>
    unless inserts do unexpected
    let _ ← optionalNameList grammar (grammar.dialect = .mysql)
    unless ← onlyIf (grammar.isAmong [.bigquery, .generic]) (keyword "ROW") do
      expectKeyword "VALUES"
      ignored (grammar.rowsOfValues grammar.dialect.emptyRows)
  | "UPDATE" =>
    if inserts then unexpected
    expectKeyword "SET"
    ignored (grammar.list grammar.setClause)
  | _ => if inserts then unexpected

/-- A table that is merged into another one. -/
def merge (grammar : Grammar) : Reader Unit := do
  let _ ← keyword "INTO"
  let _ ← grammar.tableFactor
  expectKeyword "USING"
  let _ ← grammar.tableFactor
  expectKeyword "ON"
  let _ ← grammar.expression
  ignored (many (do
    if (← rest).isEmpty || (← peekSymbol ";") then return none
    else return some (← grammar.mergeClause)))

/-- A variable with a type or the word for a cursor, and its value. -/
def typedVariable (grammar : Grammar) : Reader Unit := do
  unless (← name).text.startsWith "@" do unexpected
  unless ← keyword "CURSOR" do
    let _ ← keyword "AS"
    ignored grammar.typeText
  if ← symbol "=" then ignored grammar.expression

/-- Variables of one type or with one value. -/
def sharedVariables (grammar : Grammar) : Reader Unit := do
  let _ ← grammar.list name
  if ← keyword "DEFAULT" then
    ignored grammar.expression
  else
    let _ ← grammar.typeText
    afterWords ["DEFAULT"] (ignored grammar.expression)

def startValue (grammar : Grammar) : Reader Bool := do
  if ← (do if ← keyword "DEFAULT" then return true else symbol ":=") then
    let _ ← grammar.expression
    return true
  else
    return false

/-- A variable, a cursor, a result or an exception. -/
def scriptVariable (grammar : Grammar) : Reader Unit := do
  let _ ← name
  match ← oneOf? ["CURSOR", "RESULTSET", "EXCEPTION"] with
  | some "CURSOR" =>
    expectKeyword "FOR"
    if ← peekKeyword "SELECT" then ignored grammar.query else ignored grammar.expression
  | some "RESULTSET" => ignored grammar.startValue
  | some _ => if ← peekSymbol "(" then ignored grammar.expression
  | none =>
    unless ← grammar.startValue do
      if ← wordNext then
        let _ ← grammar.typeText
        ignored grammar.startValue

/-- Variables after each other; each semicolon before a word that is no keyword
goes on with one more. -/
def scriptVariables (grammar : Grammar) : Nat → Reader Unit
  | 0 => unexpected
  | fuel + 1 => do
    grammar.scriptVariable
    if (← peekSymbol ";") && ((← peekSecond?).any Token.isPlainWord) then
      skip 1
      scriptVariables grammar fuel

def cursor (grammar : Grammar) : Reader Unit := do
  let _ ← name
  let _ ← keyword "BINARY"
  let _ ← oneOf? ["INSENSITIVE", "ASENSITIVE"]
  unless ← keyword "SCROLL" do
    ignored (keywords ["NO", "SCROLL"])
  expectKeyword "CURSOR"
  if (← oneOf? ["WITH", "WITHOUT"]).isSome then expectKeyword "HOLD"
  expectKeyword "FOR"
  ignored grammar.query

/-- A cursor or variables, after DECLARE. -/
def declaration (grammar : Grammar) : Reader Unit := do
  match grammar.dialect with
  | .mssql => ignored (grammar.list grammar.typedVariable)
  | .bigquery => grammar.sharedVariables
  | .snowflake => grammar.scriptVariables ((← rest).length + 1)
  | _ => grammar.cursor

/-- The rows that are taken from a cursor. -/
def fetchedRows : Reader Unit := do
  match ← oneOf? ["NEXT", "PRIOR", "FIRST", "LAST", "ABSOLUTE", "RELATIVE", "FORWARD", "BACKWARD",
    "ALL"] with
  | some "ABSOLUTE" | some "RELATIVE" | none => ignored numeral
  | some "FORWARD" | some "BACKWARD" =>
    unless ← keyword "ALL" do ignored numeral
  | some _ => return

/-- Rows taken from a cursor. -/
def fetchRows (grammar : Grammar) : Reader Unit := do
  fetchedRows
  let _ ← expectOneOf ["FROM", "IN"]
  let _ ← name
  afterWords ["INTO"] grammar.someName

/-- A prepared statement that is executed. -/
def execute (grammar : Grammar) : Reader Unit := do
  grammar.someName
  if ← symbol "(" then
    let _ ← grammar.listBefore ")" grammar.expression
    expectSymbol ")"
  else
    unless (← rest).isEmpty || (← peekKeyword "USING") do
      ignored (grammar.listBefore ";" grammar.expression)
  afterWords ["USING"] (ignored (separated false grammar.expression))

def prepare (grammar : Grammar) : Reader Unit := do
  let _ ← name
  if ← symbol "(" then
    let _ ← grammar.list grammar.typeText
    expectSymbol ")"
  expectKeyword "AS"
  ignored (grammar.deeper grammar.inColumn).statement

/-- A database file that is attached. -/
def attach (grammar : Grammar) : Reader Unit := do
  let _ ← keyword "DATABASE"
  if grammar.dialect = .duckdb then
    let _ ← keywords ["IF", "NOT", "EXISTS"]
    let _ ← name
    afterWords ["AS"] (ignored name)
    if ← peekSymbol "(" then ignored balanced
  else
    let _ ← grammar.expression
    expectKeyword "AS"
    ignored name

def commentOn (grammar : Grammar) : Reader Unit := do
  let _ ← keywords ["IF", "EXISTS"]
  expectKeyword "ON"
  let _ ← expectOneOf ["COLUMN", "TABLE", "EXTENSION", "SCHEMA", "DATABASE", "USER", "ROLE"]
  grammar.someName
  expectKeyword "IS"
  unless ← keyword "NULL" do
    ignored (stringText grammar.dialect)

/-- A setting of an embedded database. -/
def pragma (grammar : Grammar) : Reader Unit := do
  grammar.someName
  if ← symbol "(" then
    constant
    expectSymbol ")"
  else if ← symbol "=" then
    constant
where
  /-- A constant that is no keyword. -/
  constant : Reader Unit := do
    match ← value grammar.dialect with
    | .number _ _ | .placeholder _ => return
    | .string .single _ | .string .double _ => return
    | _ => unexpected

/-- What a server finds out about the rows of a table. -/
def analyze (grammar : Grammar) : Reader Unit := do
  expectKeyword "TABLE"
  grammar.someName
  ignored (many (do
    match ← oneOf? ["PARTITION", "NOSCAN", "FOR", "CACHE", "COMPUTE"] with
    | some "PARTITION" => return some (← ignored (inParentheses grammar.expressionTexts))
    | some "FOR" =>
      expectKeyword "COLUMNS"
      return some (← ignored (attempt (grammar.list name)))
    | some "CACHE" => return some (← expectKeyword "METADATA")
    | some "COMPUTE" => return some (← expectKeyword "STATISTICS")
    | some _ => return some ()
    | none => return none))

/-- What is explained before the explained statement is known. -/
def explainOptions (grammar : Grammar) (spelled : String) : Reader Unit := do
  if ← onlyIf (spelled = "EXPLAIN" ∧ grammar.isAmong [.postgresql, .duckdb, .generic] = true)
      (peekSymbol "(") then
    let _ ← inParentheses (grammar.list (do
      let _ ← name
      unless ← nextIs fun token => token.isSymbol "," || token.isSymbol ")" do
        ignored grammar.expression))
  else unless ← keywords ["QUERY", "PLAN"] do
    let _ ← keyword "ANALYZE"
    let _ ← keyword "VERBOSE"
    afterWords ["FORMAT"] (ignored (expectOneOf ["TEXT", "GRAPHVIZ", "JSON"]))

/-- A statement or table that is explained. -/
def explain (grammar : Grammar) (spelled : String) : Reader Unit := do
  grammar.explainOptions spelled
  match ← attempt (grammar.deeper grammar.inColumn).statement with
  | some (.other word) =>
    if ["EXPLAIN", "DESCRIBE", "DESC"].contains word then unexpected
  | some _ => return
  | none =>
    let _ ← oneOf? ["EXTENDED", "FORMATTED"]
    if grammar.isAmong [.snowflake, .clickhouse] then
      ignored (keyword "TABLE")
    grammar.someName

def oneByte (grammar : Grammar) : Reader Unit := do
  if (← stringText grammar.dialect).utf8ByteSize ≠ 1 then unexpected

def copyOption (grammar : Grammar) : Reader Unit := do
  match ← expectOneOf ["FORMAT", "FREEZE", "DELIMITER", "NULL", "HEADER", "QUOTE", "ESCAPE",
    "FORCE_QUOTE", "FORCE_NOT_NULL", "FORCE_NULL", "ENCODING"] with
  | "FORMAT" => ignored name
  | "FREEZE" | "HEADER" => ignored (oneOf? ["TRUE", "FALSE"])
  | "DELIMITER" | "QUOTE" | "ESCAPE" => grammar.oneByte
  | "NULL" | "ENCODING" => ignored (stringText grammar.dialect)
  | _ => ignored (nameList grammar false)

/-- One option of a copy of values divided by commas, if one follows. -/
def dividedCopyOption? (grammar : Grammar) : Reader (Option Unit) := do
  match ← oneOf? ["HEADER", "QUOTE", "ESCAPE", "FORCE"] with
  | some "HEADER" => return some ()
  | some "FORCE" =>
    unless ← keywords ["NOT", "NULL"] do expectKeyword "QUOTE"
    return some (← ignored (grammar.list name))
  | some _ =>
    let _ ← keyword "AS"
    return some (← grammar.oneByte)
  | none => return none

/-- One option of a copy after the parentheses, if one follows. -/
def bareCopyOption? (grammar : Grammar) : Reader (Option Unit) := do
  match ← oneOf? ["BINARY", "DELIMITER", "NULL", "CSV"] with
  | some "BINARY" => return some ()
  | some "CSV" => return some (← ignored (many (attempt do
    unless (← grammar.dividedCopyOption?).isSome do unexpected)))
  | some word =>
    let _ ← keyword "AS"
    if word = "NULL" then ignored (stringText grammar.dialect) else grammar.oneByte
    return some ()
  | none => return none

/-- Rows that are copied to or from a file. -/
def copy (grammar : Grammar) : Reader Unit := do
  let queried ← symbol "("
  if queried then
    let _ ← grammar.query
    expectSymbol ")"
  else
    grammar.someName
    ignored (optionalNameList grammar false)
  if (← expectOneOf ["FROM", "TO"]) = "FROM" && queried then unexpected
  let place? ← oneOf? ["STDIN", "STDOUT", "PROGRAM"]
  if place?.isNone || place? = some "PROGRAM" then
    ignored (stringText grammar.dialect)
  let _ ← keyword "WITH"
  if ← peekSymbol "(" then
    ignored (inParentheses (grammar.list grammar.copyOption))
  let _ ← many (attempt do
    unless (← grammar.bareCopyOption?).isSome do unexpected)
  if place? = some "STDIN" then
    expectSymbol ";"
    Reader.skip (← rest).length

/-- What is kept of a table in memory. -/
def cachedRows (grammar : Grammar) : Reader Unit := do
  if ← peekKeyword "OPTIONS" then
    ignored (grammar.settings "OPTIONS")
  unless (← rest).isEmpty do
    unless ← wordNext do unexpected
    let _ ← keyword "AS"
    ignored grammar.query

/-- A table that is kept in memory. -/
def cache (grammar : Grammar) : Reader Unit := do
  unless ← keyword "TABLE" do
    grammar.someName
    expectKeyword "TABLE"
  grammar.someName
  grammar.cachedRows

def partitionValues (grammar : Grammar) : Reader Unit :=
  afterWords ["PARTITION"] grammar.partitions

/-- An extension, or data of a file, that is loaded. -/
def load (grammar : Grammar) : Reader Unit := do
  if grammar.isAmong [.postgresql, .duckdb, .generic] then
    ignored name
  else if ← onlyIf (grammar.dialect = .hive) (keyword "DATA") then
    let _ ← keyword "LOCAL"
    expectKeyword "INPATH"
    let _ ← stringText grammar.dialect
    let _ ← keyword "OVERWRITE"
    expectKeywords ["INTO", "TABLE"]
    grammar.someName
    grammar.partitionValues
    afterWords ["INPUTFORMAT"] do
      let _ ← grammar.expression
      expectKeyword "SERDE"
      ignored grammar.expression
  else
    unexpected

/-- The rows of a query that are written to files, and the word that names the
statement, to which the query is joined. -/
def unload (grammar : Grammar) : Reader String := do
  let query ← grammar.queryInParentheses
  expectKeyword "TO"
  let _ ← name
  let _ ← grammar.settings "WITH"
  return "UNLOAD" ++ String.ofList (query.toList.takeWhile (· != ' '))

/-- A function that is called, or a procedure without arguments. -/
def call (grammar : Grammar) : Reader Unit := do
  let function ← qualifiedName grammar.dialect
  if ← peekSymbol "(" then
    ignored (grammar.callOf function)

end Grammar

end Sql

end OrmCode
