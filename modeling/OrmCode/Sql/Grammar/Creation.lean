import OrmCode.Sql.Grammar.Routine

/-!
# Statements that create

A table, which code is made of, or another object.  Some objects may replace
what has their name, and others may not.
-/

namespace OrmCode

namespace Sql

namespace Grammar

open Reader

/-- The objects other than tables that may be replaced when they are created. -/
def replaceableObject? (grammar : Grammar) : Reader (Option ParsedStatement) := do
  let created := some (ParsedStatement.other "CREATE")
  if ← nextIs fun token => token.isKeyword "MATERIALIZED" || token.isKeyword "VIEW" then
    grammar.createView
    return created
  else if ← keyword "EXTERNAL" then
    return some (.create (← grammar.createExternalTable))
  else
    match ← oneOf? ["POLICY", "FUNCTION", "TRIGGER", "MACRO", "SECRET"] with
    | some "POLICY" => grammar.createPolicy; return created
    | some "FUNCTION" => grammar.createFunction; return created
    | some "MACRO" => grammar.createShorthand; return created
    | some "SECRET" => grammar.createSecret; return created
    | some _ => grammar.createTrigger; return created
    | none =>
      if ← keywords ["CONSTRAINT", "TRIGGER"] then
        grammar.createTrigger
        return created
      else
        return none

/-- The objects that are created but never replaced. -/
def createObject (grammar : Grammar) : Reader Unit := do
  if ← keyword "EXTENSION" then createExtension
  else if ← keyword "INDEX" then grammar.createIndex
  else if ← keywords ["UNIQUE", "INDEX"] then grammar.createIndex
  else if ← keyword "VIRTUAL" then grammar.createVirtualTable
  else if ← keyword "SCHEMA" then grammar.createSchema
  else if ← keyword "DATABASE" then grammar.createDatabase
  else if ← keyword "ROLE" then grammar.createRole
  else if ← keyword "SEQUENCE" then grammar.createSequence
  else if ← keyword "TYPE" then grammar.createType
  else if ← keyword "PROCEDURE" then grammar.createProcedure
  else unexpected

/-- A statement that creates something, after its first word. -/
def create (grammar : Grammar) : Reader ParsedStatement := do
  let replaces ← keywords ["OR", "REPLACE"]
  let _ ← keywords ["OR", "ALTER"]
  let _ ← keyword "LOCAL"
  let _ ← keyword "GLOBAL"
  let _ ← keyword "TRANSIENT"
  let _ ← oneOf? ["TEMP", "TEMPORARY"]
  let _ ← onlyIf (grammar.dialect = .duckdb) (keyword "PERSISTENT")
  if ← keyword "TABLE" then
    return .create (← grammar.createTable)
  else
    match ← grammar.replaceableObject? with
    | some statement => return statement
    | none =>
      if replaces then unexpected
      else
        grammar.createObject
        return .other "CREATE"

end Grammar

end Sql

end OrmCode
