import OrmCode.Sql.Grammar.Column

/-!
# Definitions of tables

After its columns a table may have clauses for storage, ordering and comments,
in an order that is fixed in all dialects but one.
-/

namespace OrmCode

namespace Sql

namespace Grammar

open Reader

/-- A name that may be missing after a word that announces it; what stands there
instead is taken. -/
def announcedName? (grammar : Grammar) : Reader (Option QualifiedName) := do
  match ← attempt (qualifiedName grammar.dialect) with
  | some table => return some table
  | none =>
    skip 1
    return none

/-- The form of the rows of a stored table. -/
def rowForm : Reader Unit := do
  expectKeyword "FORMAT"
  if ← keyword "SERDE" then
    let _ ← singleQuoted
  else
    expectKeyword "DELIMITED"

/-- The form of the files of a stored table. -/
def fileForm (grammar : Grammar) : Reader Unit := do
  expectKeyword "AS"
  if ← keyword "INPUTFORMAT" then
    let _ ← grammar.expression
    expectKeyword "OUTPUTFORMAT"
    let _ ← grammar.expression
  else
    let _ ← expectOneOf
      ["AVRO", "JSONFILE", "ORC", "PARQUET", "RCFILE", "SEQUENCEFILE", "TEXTFILE"]

/-- One clause about how a table is stored, if one follows. -/
def storage? (grammar : Grammar) : Reader (Option Unit) := do
  match ← oneOf? ["ROW", "STORED", "LOCATION"] with
  | some "ROW" => return some (← rowForm)
  | some "STORED" => return some (← grammar.fileForm)
  | some _ =>
    let _ ← stringText grammar.dialect
    return some ()
  | none => return none

/-- How the rows of a table are spread over partitions and buckets. -/
def distribution (grammar : Grammar) : Reader Unit := do
  if ← keywords ["PARTITIONED", "BY"] then
    let _ ← inParentheses (grammar.list grammar.columnDefinition)
  if ← keywords ["CLUSTERED", "BY"] then
    let _ ← nameList grammar false
    if ← keywords ["SORTED", "BY"] then
      let _ ← inParentheses (grammar.list grammar.orderItem)
    expectKeyword "INTO"
    let _ ← numeral
    expectKeyword "BUCKETS"

def anyWord : Reader Unit := do
  match ← next with
  | .word _ _ => return
  | _ => unexpected

/-- The engine that keeps a table. -/
def engine (grammar : Grammar) : Reader Unit := do
  if ← keyword "ENGINE" then
    expectSymbol "="
    anyWord
    if ← symbol "(" then
      let _ ← grammar.listBefore ")" name
      expectSymbol ")"

/-- The first number that a table gives. -/
def firstNumber : Reader Unit := do
  if ← keyword "AUTO_INCREMENT" then
    let _ ← symbol "="
    let first ← wholeNumber
    if 4294967296 ≤ first then unexpected

/-- A word after an equals sign, after some keywords. -/
def wordAfter (words : List String) : Reader Unit := do
  if ← keywords words then
    expectSymbol "="
    anyWord

/-- The order in which the rows of a table are kept. -/
def keptOrder (grammar : Grammar) : Reader Unit := do
  if ← onlyIf (grammar.isAmong [.clickhouse, .generic]) (keywords ["PRIMARY", "KEY"]) then
    let _ ← grammar.expression
  if ← keywords ["ORDER", "BY"] then
    if ← symbol "(" then
      unless ← peekSymbol ")" do
        let _ ← grammar.list grammar.expression
      expectSymbol ")"
    else
      let _ ← grammar.expression

def division (grammar : Grammar) : Reader Unit := do
  if ← onlyIf (grammar.isAmong [.bigquery, .postgresql, .generic])
      (keywords ["PARTITION", "BY"]) then
    let _ ← grammar.expression
  if grammar.isAmong [.bigquery, .generic] then
    if ← keywords ["CLUSTER", "BY"] then
      let _ ← grammar.list name
    let _ ← grammar.settings "OPTIONS"

/-- What becomes of a temporary table at the end of a transaction. -/
def fateOfRows : Reader Unit := do
  if ← keywords ["DELETE", "ROWS"] then return
  else if ← keywords ["PRESERVE", "ROWS"] then return
  else expectKeyword "DROP"

def comment : Reader Unit := do
  if ← keyword "COMMENT" then
    let _ ← symbol "="
    let _ ← singleQuoted

/-- The query that fills a new table. -/
def fillingQuery? (grammar : Grammar) : Reader (Option Query) := do
  if ← keyword "AS" then
    return some (← grammar.query)
  else if ← onlyIf grammar.dialect.createTableSelect (peekKeyword "SELECT") then
    return some (← grammar.query)
  else
    return none

/-- A table after its name, with its clauses in their fixed order. -/
def plainTable (grammar : Grammar) (table : QualifiedName) : Reader CreateTable := do
  if ← keywords ["ON", "CLUSTER"] then
    let _ ← name
  let like? ←
    if (← oneOf? ["LIKE", "ILIKE"]).isSome then grammar.announcedName? else pure none
  if ← keyword "CLONE" then
    let _ ← grammar.announcedName?
  let (columns, constraints) ← grammar.columns
  if grammar.dialect = .hive then comment
  let _ ← keywords ["WITHOUT", "ROWID"]
  grammar.distribution
  let _ ← many grammar.storage?
  let _ ← grammar.settings "WITH"
  let _ ← grammar.settings "TBLPROPERTIES"
  grammar.engine
  firstNumber
  grammar.keptOrder
  grammar.division
  wordAfter ["DEFAULT", "CHARSET"]
  wordAfter ["COLLATE"]
  if ← keywords ["ON", "COMMIT"] then fateOfRows
  let _ ← keyword "STRICT"
  unless grammar.dialect = .hive do comment
  let query? ← grammar.fillingQuery?
  return { name := table, columns, constraints, like?, query? }

/-- A setting of a table that is a word, a number or a text after an equals sign. -/
def assignedSetting (grammar : Grammar) : Reader Unit := do
  expectSymbol "="
  let _ ← value grammar.dialect

/-- The settings of a table that are assigned, in the dialect with clauses in any order. -/
def assignedSettings : List String :=
  ["ENABLE_SCHEMA_EVOLUTION", "CHANGE_TRACKING", "DATA_RETENTION_TIME_IN_DAYS",
    "MAX_DATA_EXTENSION_TIME_IN_DAYS", "DEFAULT_DDL_COLLATION"]

/-- One more clause of a table in any order, and whether it was the last one. -/
def freeClause (grammar : Grammar) (table : CreateTable) : Reader (CreateTable × Bool) := do
  if ← peekSymbol "(" then
    let (columns, constraints) ← grammar.columns
    return ({ table with columns, constraints }, false)
  else if ← peekKeyword "COMMENT" then
    comment
    return (table, false)
  else if ← keyword "AS" then
    return ({ table with query? := some (← grammar.query) }, true)
  else if ← keyword "CLONE" then
    let _ ← grammar.announcedName?
    return (table, true)
  else if ← keyword "LIKE" then
    return ({ table with like? := ← grammar.announcedName? }, true)
  else if ← keyword "COPY" then
    expectKeyword "GRANTS"
    return (table, false)
  else if ← keyword "CLUSTER" then
    expectKeyword "BY"
    let _ ← inParentheses (grammar.list name)
    return (table, false)
  else if ← keywords ["ON", "COMMIT"] then
    fateOfRows
    return (table, false)
  else if (← oneOf? assignedSettings).isSome then
    grammar.assignedSetting
    return (table, false)
  else if (← rest).isEmpty || (← peekSymbol ";") then
    if table.columns.isEmpty then unexpected else return (table, true)
  else
    unexpected

def freeClauses (grammar : Grammar) : Nat → CreateTable → Reader CreateTable
  | 0, _ => unexpected
  | fuel + 1, table => do
    let (extended, finished) ← grammar.freeClause table
    if finished then return extended else grammar.freeClauses fuel extended

/-- A new table, after the word for it. -/
def createTable (grammar : Grammar) : Reader CreateTable := do
  let _ ← keywords ["IF", "NOT", "EXISTS"]
  let table ← qualifiedName grammar.dialect
  if grammar.dialect = .snowflake then
    grammar.freeClauses ((← rest).length + 1) { name := table }
  else
    grammar.plainTable table

end Grammar

end Sql

end OrmCode
