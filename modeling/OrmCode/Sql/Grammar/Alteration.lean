import OrmCode.Sql.Grammar.Creation

/-!
# Statements that drop and alter

DROP, TRUNCATE and ALTER.  No code is made of these, so their readers only tell
whether the text has the form of one.
-/

namespace OrmCode

namespace Sql

namespace Grammar

open Reader

/-- Words of which the first is the next keyword, and the reader for what follows them. -/
abbrev Branch := List String × Reader Unit

/-- The reader of the first branch whose words are next, if there is one. -/
def branch? : List Branch → Reader (Option Unit)
  | [] => return none
  | (words, reader) :: branches => do
    if ← keywords words then
      reader
      return some ()
    else
      branch? branches

/-- The reader of the first branch whose words are next; there must be one. -/
def branch (branches : List Branch) : Reader Unit := do
  unless (← branch? branches).isSome do unexpected

def branchesIn (grammar : Grammar) (dialects : List Dialect) (branches : List Branch) :
    List Branch :=
  if grammar.isAmong dialects then branches else []

/-- Expressions between parentheses. -/
def partitions (grammar : Grammar) : Reader Unit :=
  ignored (inParentheses grammar.expressionTexts)

/-- An object that belongs to a table and is dropped. -/
def dropOfTable (grammar : Grammar) : Reader Unit := do
  let _ ← keywords ["IF", "EXISTS"]
  grammar.someName
  expectKeyword "ON"
  grammar.someName
  dependents

def dropObjects (grammar : Grammar) (kind : String) : Reader Unit := do
  let _ ← keywords ["IF", "EXISTS"]
  grammar.someNames
  let cascade ← keyword "CASCADE"
  let restrict ← keyword "RESTRICT"
  let purge ← keyword "PURGE"
  if cascade && restrict then unexpected
  if kind = "ROLE" && (cascade || restrict || purge) then unexpected

/-- A statement that drops something, after its first word. -/
def drop (grammar : Grammar) : Reader Unit := do
  let _ ← onlyIf (grammar.isAmong [.mysql, .generic, .duckdb]) (keyword "TEMPORARY")
  let _ ← onlyIf (grammar.dialect = .duckdb) (keyword "PERSISTENT")
  match ← expectOneOf ["TABLE", "VIEW", "INDEX", "ROLE", "SCHEMA", "DATABASE", "SEQUENCE", "STAGE",
    "TYPE", "FUNCTION", "PROCEDURE", "POLICY", "SECRET", "TRIGGER"] with
  | "FUNCTION" | "PROCEDURE" =>
    let _ ← keywords ["IF", "EXISTS"]
    let _ ← grammar.list grammar.describedFunction
    dependents
  | "POLICY" => grammar.dropOfTable
  | "TRIGGER" => if grammar.isAmong [.postgresql, .generic] then grammar.dropOfTable else unexpected
  | "SECRET" =>
    let _ ← keywords ["IF", "EXISTS"]
    let _ ← name
    afterWords ["FROM"] (ignored (attempt name))
  | kind => grammar.dropObjects kind

/-- A statement that empties tables, after its first word. -/
def truncate (grammar : Grammar) : Reader Unit := do
  let _ ← keyword "TABLE"
  let _ ← keyword "ONLY"
  grammar.someNames
  afterWords ["PARTITION"] grammar.partitions
  if grammar.isAmong [.postgresql, .generic] then
    unless ← keywords ["RESTART", "IDENTITY"] do
      ignored (keywords ["CONTINUE", "IDENTITY"])
    dependents
  afterWords ["ON", "CLUSTER"] (ignored name)

/-- The place of a column among the others. -/
def columnPlace (grammar : Grammar) : Reader Unit := do
  if grammar.isAmong [.mysql, .generic] then
    unless ← keyword "FIRST" do
      afterWords ["AFTER"] (ignored name)

def addProjection (grammar : Grammar) : Reader Unit := do
  let _ ← keywords ["IF", "NOT", "EXISTS"]
  let _ ← name
  let _ ← inParentheses do
    expectKeyword "SELECT"
    let _ ← grammar.selectItems
    let _ ← grammar.grouping
    grammar.order

def addColumn (grammar : Grammar) (guarded : Bool) : Reader Unit := do
  let _ ← keyword "COLUMN"
  unless guarded do
    if grammar.isAmong [.postgresql, .bigquery, .duckdb, .generic] then
      ignored (keywords ["IF", "NOT", "EXISTS"])
  let _ ← grammar.columnDefinition
  grammar.columnPlace

def addToTable (grammar : Grammar) : Reader Unit := do
  match ← grammar.tableConstraint? with
  | some _ => return
  | none =>
    if ← onlyIf (grammar.isAmong [.clickhouse, .generic]) (keyword "PROJECTION") then
      grammar.addProjection
    else
      let guarded ← keywords ["IF", "NOT", "EXISTS"]
      let added ← many (whenRead (keyword "PARTITION") grammar.partitions)
      if added.isEmpty then grammar.addColumn guarded

/-- Two names with TO between them. -/
def nameToName : Reader Unit := do
  let _ ← name
  expectKeyword "TO"
  ignored name

def renameInTable (grammar : Grammar) : Reader Unit := do
  match ← branch? (grammar.branchesIn [.postgresql] [(["CONSTRAINT"], nameToName)] ++
      [(["TO"], grammar.someName)]) with
  | some () => return
  | none =>
    let _ ← keyword "COLUMN"
    nameToName

def dropFromTable (grammar : Grammar) : Reader Unit := do
  let droppedName := do
    let _ ← keywords ["IF", "EXISTS"]
    ignored name
  match ← branch? ([
      (["IF", "EXISTS", "PARTITION"], grammar.partitions),
      (["PARTITION"], grammar.partitions),
      (["CONSTRAINT"], do droppedName; dependents)] ++
      grammar.branchesIn [.mysql, .generic] [(["PRIMARY", "KEY"], return)] ++
      grammar.branchesIn [.clickhouse, .generic] [(["PROJECTION"], droppedName)] ++
      [(["CLUSTERING", "KEY"], return)]) with
  | some () => return
  | none =>
    let _ ← keyword "COLUMN"
    droppedName
    dependents

/-- A changed column: its type and its options. -/
def changedColumn (grammar : Grammar) : Reader Unit := do
  let _ ← grammar.typeText
  ignored (many (firstOf? grammar.ofColumn.columnOptions))
  grammar.columnPlace

/-- A column that is changed and may get a new name. -/
def changeColumn (grammar : Grammar) (renamed : Bool) : Reader Unit := do
  let _ ← keyword "COLUMN"
  let _ ← name
  if renamed then ignored name
  grammar.changedColumn

/-- The new type of a column and how values are converted to it. -/
def newType (grammar : Grammar) : Reader Unit := do
  let _ ← grammar.typeText
  grammar.afterWordsIn [.postgresql] ["USING"] (ignored grammar.expression)

/-- Values of a column that are generated from now on. -/
def generatedNow : Reader Unit := do
  unless ← keyword "ALWAYS" do
    ignored (keywords ["BY", "DEFAULT"])
  expectKeywords ["AS", "IDENTITY"]
  if ← symbol "(" then
    sequenceOptions
    expectSymbol ")"

def alterColumn (grammar : Grammar) : Reader Unit := do
  let _ ← keyword "COLUMN"
  let _ ← name
  branch ([
    (["SET", "NOT", "NULL"], return),
    (["DROP", "NOT", "NULL"], return),
    (["SET", "DEFAULT"], ignored grammar.expression),
    (["DROP", "DEFAULT"], return),
    (["SET", "DATA", "TYPE"], grammar.newType)] ++
    grammar.branchesIn [.postgresql] [(["TYPE"], grammar.newType)] ++
    [(["ADD", "GENERATED"], generatedNow)])

/-- A part of a table, as some dialects divide tables. -/
def tablePart (grammar : Grammar) : Reader Unit := do
  let _ ← expectOneOf ["PART", "PARTITION"]
  ignored grammar.expression

def projectionInPartition : Reader Unit := do
  let _ ← keywords ["IF", "EXISTS"]
  let _ ← name
  afterWords ["IN", "PARTITION"] (ignored name)

def tableChanges (grammar : Grammar) : List Branch :=
  let ofName : List String → Branch := fun words => (words, ignored name)
  let frozen := do
    grammar.tablePart
    afterWords ["WITH", "NAME"] (ignored name)
  [(["ADD"], grammar.addToTable),
    (["RENAME"], grammar.renameInTable),
    (["DISABLE", "ROW", "LEVEL", "SECURITY"], return),
    ofName ["DISABLE", "RULE"],
    ofName ["DISABLE", "TRIGGER"],
    ofName ["ENABLE", "ALWAYS", "RULE"],
    ofName ["ENABLE", "ALWAYS", "TRIGGER"],
    (["ENABLE", "ROW", "LEVEL", "SECURITY"], return),
    ofName ["ENABLE", "REPLICA", "RULE"],
    ofName ["ENABLE", "REPLICA", "TRIGGER"],
    ofName ["ENABLE", "RULE"],
    ofName ["ENABLE", "TRIGGER"]] ++
  grammar.branchesIn [.clickhouse, .generic] [
    (["CLEAR", "PROJECTION"], projectionInPartition),
    (["MATERIALIZE", "PROJECTION"], projectionInPartition)] ++
  [(["DROP"], grammar.dropFromTable),
    (["PARTITION"], do
      grammar.partitions
      expectKeywords ["RENAME", "TO", "PARTITION"]
      grammar.partitions),
    (["CHANGE"], grammar.changeColumn true),
    (["MODIFY"], grammar.changeColumn false),
    (["ALTER"], grammar.alterColumn),
    (["SWAP", "WITH"], grammar.someName)] ++
  grammar.branchesIn [.postgresql, .generic] [ofName ["OWNER", "TO"]] ++
  grammar.branchesIn [.clickhouse, .generic] [
    (["ATTACH"], grammar.tablePart),
    (["DETACH"], grammar.tablePart),
    (["FREEZE"], frozen),
    (["UNFREEZE"], frozen)] ++
  [(["CLUSTER", "BY"], grammar.partitions),
    (["SUSPEND", "RECLUSTER"], return),
    (["RESUME", "RECLUSTER"], return),
    (["SET", "TBLPROPERTIES"], do
      expectSymbol "("
      let _ ← grammar.list grammar.setting
      expectSymbol ")")]

def alterTable (grammar : Grammar) : Reader Unit := do
  let _ ← keywords ["IF", "EXISTS"]
  let _ ← keyword "ONLY"
  grammar.someName
  afterWords ["ON", "CLUSTER"] (ignored name)
  let _ ← grammar.list (branch grammar.tableChanges)
  ignored (branch? [(["LOCATION"], ignored name), (["SET", "LOCATION"], ignored name)])

def alterView (grammar : Grammar) : Reader Unit := do
  grammar.someName
  let _ ← optionalNameList grammar false
  let _ ← grammar.settings "WITH"
  expectKeyword "AS"
  ignored grammar.query

/-- The new value of a setting of a role. -/
def roleSetting (grammar : Grammar) : Reader Unit := do
  grammar.someName
  unless ← keywords ["FROM", "CURRENT"] do
    unless ← symbol "=" do expectKeyword "TO"
    unless ← keyword "DEFAULT" do ignored grammar.expression

def alterRoleWithSettings (grammar : Grammar) : Reader Unit := do
  let _ ← name
  afterWords ["IN", "DATABASE"] grammar.someName
  match ← branch? [
      (["RENAME"], do expectKeyword "TO"; ignored name),
      (["SET"], grammar.roleSetting),
      (["RESET"], do unless ← keyword "ALL" do grammar.someName)] with
  | some () => return
  | none =>
    let _ ← keyword "WITH"
    if (← many grammar.roleOption?).isEmpty then unexpected

/-- A change of the members or the name of a role. -/
def alterRoleMembers : Reader Unit := do
  let _ ← name
  branch [
    (["ADD", "MEMBER"], ignored name),
    (["DROP", "MEMBER"], ignored name),
    (["WITH", "NAME"], do expectSymbol "="; ignored name)]

/-- A change of a rule about who may see which rows. -/
def alterPolicy (grammar : Grammar) : Reader Unit := do
  let _ ← name
  expectKeyword "ON"
  grammar.someName
  if ← keyword "RENAME" then
    expectKeyword "TO"
    ignored name
  else
    grammar.policyScope

/-- A statement that alters something, after its first word. -/
def alter (grammar : Grammar) : Reader Unit := do
  match ← expectOneOf ["VIEW", "TABLE", "INDEX", "ROLE", "POLICY"] with
  | "TABLE" => grammar.alterTable
  | "VIEW" => grammar.alterView
  | "POLICY" => grammar.alterPolicy
  | "INDEX" =>
    grammar.someName
    expectKeywords ["RENAME", "TO"]
    grammar.someName
  | _ =>
    match grammar.dialect with
    | .postgresql => grammar.alterRoleWithSettings
    | .mssql => alterRoleMembers
    | _ => unexpected

end Grammar

end Sql

end OrmCode
