import OrmCode.Sql.Grammar.Definition

/-!
# Statements that change rows

INSERT, UPDATE and DELETE.  Of the clauses that no code is made of, only their
presence is kept.
-/

namespace OrmCode

namespace Sql

namespace Grammar

open Reader

/-- What is done where rows are in conflict with others, if that is said. -/
def conflictAction : Reader Bool := do
  if (← peekKeyword "OR") && (← peekSecond?).any fun token =>
      ["REPLACE", "ROLLBACK", "ABORT", "FAIL", "IGNORE"].any token.isKeyword then
    skip 2
    return true
  else
    keyword "REPLACE"

def setClause (grammar : Grammar) : Reader SetClause := do
  let column := qualifiedName grammar.dialect
  let target ←
    if ← symbol "(" then
      let columns ← grammar.list column
      expectSymbol ")"
      pure (AssignmentTarget.tuple columns)
    else
      pure (AssignmentTarget.column (← column))
  expectSymbol "="
  return { target, value := ← grammar.expression }

/-- Whether values of the changed rows are returned. -/
def returning (grammar : Grammar) : Reader Bool := do
  if ← keyword "RETURNING" then
    let _ ← grammar.list grammar.selectItem
    return true
  else
    return false

/-- Whether a query between parentheses is next. -/
def nestedSelectNext : Reader Bool := do
  return (← peekSymbol "(") && (← peekSecond?).any (Token.isKeyword "SELECT")

/-- What is done instead of inserting a row that is already there. -/
def onConflict (grammar : Grammar) : Reader Unit := do
  if ← keywords ["ON", "CONSTRAINT"] then
    let _ ← qualifiedName grammar.dialect
  else
    let _ ← optionalNameList grammar false
  expectKeyword "DO"
  unless ← keyword "NOTHING" do
    expectKeywords ["UPDATE", "SET"]
    let _ ← grammar.list grammar.setClause
    let _ ← grammar.condition?

/-- Whether an INSERT says what to do with rows that are already there. -/
def onDuplicate (grammar : Grammar) : Reader Bool := do
  if ← keyword "ON" then
    if ← keyword "CONFLICT" then
      grammar.onConflict
    else
      expectKeywords ["DUPLICATE", "KEY", "UPDATE"]
      let _ ← grammar.list grammar.setClause
    return true
  else
    return false

def rowAlias? (grammar : Grammar) : Reader (Option QualifiedName) :=
  whenRead (onlyIf (grammar.isAmong [.mysql, .generic]) (keyword "AS")) (do
    let label ← qualifiedName grammar.dialect
    let _ ← optionalNameList grammar false
    return label)

def insertPartition (grammar : Grammar) : Reader String :=
  textWhen (keyword "PARTITION") (do
    return " PARTITION " ++ parenthesized (← inParentheses grammar.expressionTexts))

def insertedRows (grammar : Grammar) (insertion : Insert) : Reader Insert := do
  if ← keywords ["DEFAULT", "VALUES"] then
    return insertion
  else if ← nestedSelectNext then
    return { insertion with source? := some (← grammar.query) }
  else
    let columns ← optionalNameList grammar (grammar.dialect = .mysql)
    let partition ← grammar.insertPartition
    let columnsAfterPartition ←
      if grammar.dialect = .hive then optionalNameList grammar false else pure []
    let source ← grammar.query
    return { insertion with columns, partition, columnsAfterPartition, source? := some source }

def insertIntoTable (grammar : Grammar) (insertion : Insert) : Reader Insert := do
  let _ ← keyword "TABLE"
  let table ← qualifiedName grammar.dialect
  let alias? ← whenRead (onlyIf (grammar.dialect = .postgresql) (keyword "AS")) name
  let filled ← grammar.insertedRows { insertion with table, alias? }
  let rowAlias? ← grammar.rowAlias?
  let onDuplicate ← grammar.onDuplicate
  let returning ← grammar.returning
  return { filled with rowAlias?, onDuplicate, returning }

/-- An INSERT whose rows go to files. -/
def insertIntoFiles (grammar : Grammar) : Reader ParsedStatement := do
  let _ ← stringText grammar.dialect
  if ← peekKeyword "STORED" then
    skip 1
    grammar.fileForm
  let _ ← grammar.query
  return .other "INSERT"

/-- An INSERT, after its first word; `replacing` tells that this was REPLACE. -/
def insert (grammar : Grammar) (replacing : Bool) : Reader ParsedStatement := do
  let conflict ← conflictAction
  let numbered := grammar.isAmong [.mysql, .generic]
  let _ ← onlyIf numbered do
    return (← oneOf? ["LOW_PRIORITY", "DELAYED", "HIGH_PRIORITY"]).isSome
  let ignoring ← onlyIf numbered (keyword "IGNORE")
  let overwriting ← keyword "OVERWRITE"
  let _ ← keyword "INTO"
  let _ ← keyword "LOCAL"
  if ← keyword "DIRECTORY" then
    grammar.insertIntoFiles
  else
    return .insert (← grammar.insertIntoTable
      { conflict, ignoring, replacing, overwriting, table := [] })

/-- An UPDATE, after its first word. -/
def update (grammar : Grammar) : Reader UpdateStatement := do
  let conflict ← conflictAction
  let table ← grammar.readReference
  expectKeyword "SET"
  let assignments ← grammar.list grammar.setClause
  let fromWord ← keyword "FROM"
  let hasFrom := fromWord && grammar.isAmong
    [.generic, .postgresql, .duckdb, .bigquery, .snowflake, .redshift, .mssql, .sqlite]
  if hasFrom then
    let _ ← grammar.readReference
  let condition? ← grammar.condition?
  let returning ← grammar.returning
  return { conflict, table, assignments, hasFrom, condition?, returning }

/-- The tables that a DELETE names before FROM, whose FROM is taken as well. -/
def deletedTables (grammar : Grammar) : Reader (List QualifiedName) := do
  if ← keyword "FROM" then
    return []
  else if grammar.isAmong [.bigquery, .generic] then
    return []
  else
    let tables ← grammar.list (qualifiedName grammar.dialect)
    expectKeyword "FROM"
    return tables

/-- A DELETE, after its first word. -/
def delete (grammar : Grammar) : Reader DeleteStatement := do
  let tables ← grammar.deletedTables
  let sources ← grammar.list grammar.readReference
  let hasUsing ← keyword "USING"
  if hasUsing then
    let _ ← grammar.list grammar.readReference
  let condition? ← grammar.condition?
  let returning ← grammar.returning
  let order ← grammar.order
  let limit? ←
    if ← keyword "LIMIT" then
      if ← keyword "ALL" then pure none else pure (some (← grammar.expression))
    else pure none
  return { tables, sources, hasUsing, condition?, returning, order, limit? }

end Grammar

end Sql

end OrmCode
