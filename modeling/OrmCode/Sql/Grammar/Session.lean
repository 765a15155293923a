import OrmCode.Sql.Grammar.Alteration

/-!
# Statements about the session

Transactions, settings, rights and locks, and what a server is asked about
itself.  Their readers only tell whether the text has the form of one.
-/

namespace OrmCode

namespace Sql

namespace Grammar

open Reader

def transactionMode? : Reader (Option Unit) := do
  if ← keywords ["ISOLATION", "LEVEL"] then
    if ← keywords ["READ", "UNCOMMITTED"] then return some ()
    else if ← keywords ["READ", "COMMITTED"] then return some ()
    else if ← keywords ["REPEATABLE", "READ"] then return some ()
    else return some (← expectKeyword "SERIALIZABLE")
  else if ← keywords ["READ", "ONLY"] then
    return some ()
  else if ← keywords ["READ", "WRITE"] then
    return some ()
  else
    return none

/-- The modes of a transaction; a mode must follow each comma. -/
def transactionModes : Reader Unit := do
  let _ ← iterate (fun (needed : Bool) => do
    match ← transactionMode? with
    | some () => return some (← symbol ",")
    | none => if needed then unexpected else return none) false

/-- The start of a transaction, after BEGIN. -/
def begin (grammar : Grammar) : Reader Unit := do
  if grammar.isAmong [.generic, .sqlite] then
    ignored (oneOf? ["DEFERRED", "IMMEDIATE", "EXCLUSIVE"])
  let _ ← oneOf? ["TRANSACTION", "WORK"]
  transactionModes

/-- What follows the word that ends a transaction. -/
def transactionEnd : Reader Unit := do
  let _ ← oneOf? ["TRANSACTION", "WORK"]
  afterWords ["AND"] (do
    let _ ← keyword "NO"
    expectKeyword "CHAIN")

/-- What follows the word that takes a transaction back. -/
def rollback : Reader Unit := do
  transactionEnd
  afterWords ["TO"] (do
    let _ ← keyword "SAVEPOINT"
    ignored name)

def settingValues (grammar : Grammar) : Reader Unit :=
  ignored (separated false (do
    if ← nestedSelectNext then
      ignored grammar.queryInParentheses
    else
      ignored grammar.expression))

/-- The character set of a connection. -/
def connectionNames (grammar : Grammar) : Reader Unit := do
  unless ← keyword "DEFAULT" do
    let _ ← stringText grammar.dialect
    afterWords ["COLLATE"] (ignored (stringText grammar.dialect))

/-- A setting without a sign between its name and its value. -/
def wordedSetting (grammar : Grammar) (setting : String) (modified : Bool) : Reader Unit := do
  if Text.capitals setting = "TIMEZONE" then
    ignored grammar.expression
  else if setting = "CHARACTERISTICS" then
    expectKeywords ["AS", "TRANSACTION"]
    transactionModes
  else if setting = "TRANSACTION" && !modified then
    if ← keyword "SNAPSHOT" then ignored (value grammar.dialect) else transactionModes
  else
    unexpected

/-- Settings between parentheses that are set at once. -/
def setTogether (grammar : Grammar) : Reader Unit := do
  let _ ← grammar.list name
  expectSymbol ")"
  unless ← symbol "=" do expectKeyword "TO"
  ignored (inParentheses grammar.settingValues)

def setAlone (grammar : Grammar) (modified : Bool) : Reader Unit := do
  let setting ←
    if ← keywords ["TIME", "ZONE"] then pure "TIMEZONE"
    else qualifiedText grammar.dialect
  if Text.capitals setting = "NAMES" && grammar.isAmong [.mysql, .generic] then
    grammar.connectionNames
  else if ← (do if ← symbol "=" then return true else keyword "TO") then
    grammar.settingValues
  else
    grammar.wordedSetting setting modified

def set (grammar : Grammar) : Reader Unit := do
  let modifier? ← oneOf? ["SESSION", "LOCAL", "HIVEVAR"]
  let role? ←
    if modifier? = some "HIVEVAR" then do expectSymbol ":"; pure none
    else attempt (do expectKeyword "ROLE"; name)
  if role?.isNone then
    if ← onlyIf (grammar.isAmong [.snowflake, .bigquery, .generic]) (symbol "(") then
      grammar.setTogether
    else
      grammar.setAlone modifier?.isSome

/-- Which of the shown objects are meant. -/
def shownFilter (grammar : Grammar) : Reader Unit := do
  if ← keyword "LIKE" then ignored (stringText grammar.dialect)
  else if ← keyword "ILIKE" then ignored (stringText grammar.dialect)
  else if ← keyword "WHERE" then ignored grammar.expression
  else ignored (attempt (stringText grammar.dialect))

/-- The object whose parts are shown. -/
def shownParent (grammar : Grammar) : Reader Unit := do
  if (← oneOf? ["FROM", "IN"]).isSome then
    match ← oneOf? ["ACCOUNT", "DATABASE", "SCHEMA", "TABLE", "VIEW"] with
    | some kind =>
      let unnamed := ["DATABASE", "SCHEMA"].contains kind &&
        (startWith ["STARTS", "WITH"] (← rest) || startWith ["LIMIT"] (← rest))
      unless unnamed do
        ignored (attempt (qualifiedName grammar.dialect))
    | none =>
      grammar.someName
      if (← oneOf? ["FROM", "IN"]).isSome then ignored name

def shownObjects (grammar : Grammar) : Reader Unit := do
  if grammar.dialect = .snowflake then
    grammar.shownFilter
    grammar.shownParent
  else
    grammar.shownParent
    grammar.shownFilter
  afterWords ["STARTS", "WITH"] (ignored (value grammar.dialect))
  afterWords ["LIMIT"] do
    unless ← keyword "ALL" do ignored grammar.expression
  afterWords ["FROM"] (ignored (value grammar.dialect))

/-- Everything up to an equals sign or the end, as the name of a setting. -/
def shownSetting : Reader Unit :=
  modify (List.dropWhile fun token => !token.isSymbol "=")

/-- What a server is asked to show, after SHOW. -/
def showing (grammar : Grammar) : Reader Unit := do
  let _ ← keyword "TERSE"
  let extended ← keyword "EXTENDED"
  let full ← keyword "FULL"
  let _ ← keyword "SESSION"
  let _ ← keyword "GLOBAL"
  let _ ← keyword "EXTERNAL"
  let counted := grammar.isAmong [.mysql, .generic]
  if (← oneOf? ["COLUMNS", "FIELDS", "TABLES"]).isSome then grammar.shownObjects
  else if ← keywords ["MATERIALIZED", "VIEWS"] then grammar.shownObjects
  else if ← keyword "VIEWS" then grammar.shownObjects
  else if ← keyword "FUNCTIONS" then grammar.shownFilter
  else if extended || full then unexpected
  else if ← keyword "CREATE" then
    let _ ← expectOneOf ["TABLE", "TRIGGER", "FUNCTION", "PROCEDURE", "EVENT", "VIEW"]
    grammar.someName
  else if ← keyword "COLLATION" then grammar.shownFilter
  else if ← onlyIf counted (keyword "VARIABLES") then grammar.shownFilter
  else if ← onlyIf counted (keyword "STATUS") then grammar.shownFilter
  else if (← oneOf? ["DATABASES", "SCHEMAS"]).isSome then grammar.shownObjects
  else shownSetting

/-- The database that is used from now on. -/
def use (grammar : Grammar) : Reader Unit := do
  if ← onlyIf (grammar.dialect = .hive) (keyword "DEFAULT") then return
  else if ← onlyIf (grammar.dialect = .snowflake) (keywords ["SECONDARY", "ROLES"]) then
    ignored (grammar.list name)
  else
    if grammar.dialect = .databricks then
      ignored (oneOf? ["CATALOG", "DATABASE", "SCHEMA"])
    if grammar.dialect = .snowflake then
      ignored (oneOf? ["DATABASE", "SCHEMA", "WAREHOUSE", "ROLE"])
    grammar.someName

def right (grammar : Grammar) : Reader Unit := do
  match ← expectOneOf ["CONNECT", "CREATE", "DELETE", "EXECUTE", "INSERT", "REFERENCES", "SELECT",
    "TEMPORARY", "TRIGGER", "TRUNCATE", "UPDATE", "USAGE"] with
  | "INSERT" | "REFERENCES" | "SELECT" | "UPDATE" => ignored (optionalNameList grammar false)
  | _ => return

/-- Rights and the objects that they are about. -/
def rights (grammar : Grammar) : Reader Unit := do
  if ← keyword "ALL" then ignored (keyword "PRIVILEGES")
  else ignored (grammar.list grammar.right)
  expectKeyword "ON"
  if ← keywords ["ALL", "TABLES", "IN", "SCHEMA"] then grammar.someNames
  else if ← keywords ["ALL", "SEQUENCES", "IN", "SCHEMA"] then grammar.someNames
  else
    let _ ← oneOf? ["SEQUENCE", "SCHEMA", "TABLE"]
    grammar.someNames

def grant (grammar : Grammar) : Reader Unit := do
  grammar.rights
  expectKeyword "TO"
  let _ ← grammar.list name
  let _ ← keywords ["WITH", "GRANT", "OPTION"]
  afterWords ["GRANTED", "BY"] (ignored name)

/-- Rights that are taken away. -/
def revoke (grammar : Grammar) : Reader Unit := do
  grammar.rights
  expectKeyword "FROM"
  let _ ← grammar.list name
  afterWords ["GRANTED", "BY"] (ignored name)
  dependents

/-- The end of a connection. -/
def kill (grammar : Grammar) : Reader Unit := do
  if (← oneOf? ["CONNECTION", "QUERY", "MUTATION"]) = some "MUTATION" &&
      !grammar.isAmong [.clickhouse, .generic] then unexpected
  ignored wholeNumber

/-- The tables that are written to disk and what happens to them. -/
def flushedTables (grammar : Grammar) : Nat → Reader Unit
  | 0 => return
  | fuel + 1 => do
    match ← peek? with
    | some (.word text quote?) =>
      let token := Token.word text quote?
      if token.isKeyword "WITH" then
        skip 1
        let _ ← keywords ["READ", "LOCK"]
      else if token.isKeyword "FOR" then
        skip 1
        let _ ← keyword "EXPORT"
      else if token.keyword?.isSome then
        skip 1
      else
        grammar.someNames
      grammar.flushedTables fuel
    | _ => skip 1

/-- What is written to disk. -/
def flush (grammar : Grammar) : Reader Unit := do
  unless grammar.isAmong [.mysql, .generic] do unexpected
  let _ ← oneOf? ["NO_WRITE_TO_BINLOG", "LOCAL"]
  match ← oneOf? ["BINARY", "ENGINE", "ERROR", "GENERAL", "SLOW"] with
  | some _ => expectKeyword "LOGS"
  | none =>
    match ← expectOneOf ["HOSTS", "PRIVILEGES", "OPTIMIZER_COSTS", "RELAY", "STATUS",
      "USER_RESOURCES", "LOGS", "TABLES"] with
    | "RELAY" =>
      expectKeyword "LOGS"
      afterWords ["FOR", "CHANNEL"] grammar.someName
    | "TABLES" => grammar.flushedTables ((← rest).length + 1)
    | _ => return

def lockedTable : Reader Unit := do
  let _ ← name
  let _ ← alias? ["READ", "WRITE", "LOW_PRIORITY"]
  match ← expectOneOf ["READ", "WRITE", "LOW_PRIORITY"] with
  | "READ" => ignored (keyword "LOCAL")
  | "LOW_PRIORITY" => expectKeyword "WRITE"
  | _ => return

end Grammar

end Sql

end OrmCode
