import OrmCode.Sql.Grammar.Change

/-!
# Objects of a database

Views, indexes, schemas, roles, sequences, types and other objects.  No code is
made of them, so their readers only tell whether the text has the form of one.
-/

namespace OrmCode

namespace Sql

namespace Grammar

open Reader

/-- Reads a value that is not kept. -/
def ignored {α : Type} (reader : Reader α) : Reader Unit := do
  let _ ← reader

/-- A name with its qualifiers that is not kept. -/
def someName (grammar : Grammar) : Reader Unit :=
  ignored (qualifiedName grammar.dialect)

/-- Names with their qualifiers, separated by commas. -/
def someNames (grammar : Grammar) : Reader Unit :=
  ignored (grammar.list (qualifiedName grammar.dialect))

/-- A reader that is used only after some keywords. -/
def afterWords (words : List String) (reader : Reader Unit) : Reader Unit := do
  if ← keywords words then reader

/-- A reader that is used only after some keywords, and only in some dialects. -/
def afterWordsIn (grammar : Grammar) (dialects : List Dialect) (words : List String)
    (reader : Reader Unit) : Reader Unit := do
  if grammar.isAmong dialects then afterWords words reader

/-- What becomes of objects that depend on a dropped one. -/
def dependents : Reader Unit :=
  ignored (oneOf? ["CASCADE", "RESTRICT"])

/-- A column of a view with its type and settings. -/
def viewColumn (grammar : Grammar) : Reader Unit := do
  let _ ← name
  if grammar.dialect = .clickhouse then
    ignored grammar.typeText
  if grammar.isAmong [.bigquery, .generic] then
    ignored (grammar.settings "OPTIONS")
  if grammar.isAmong [.snowflake, .generic] then
    afterWords ["COMMENT"] (ignored singleQuoted)

/-- A view, from its first word on. -/
def createView (grammar : Grammar) : Reader Unit := do
  let _ ← keyword "MATERIALIZED"
  expectKeyword "VIEW"
  let _ ← onlyIf (grammar.isAmong [.bigquery, .sqlite, .generic])
    (keywords ["IF", "NOT", "EXISTS"])
  grammar.someName
  if ← symbol "(" then
    unless ← symbol ")" do
      let _ ← grammar.list grammar.viewColumn
      expectSymbol ")"
  let _ ← grammar.settings "WITH"
  afterWords ["CLUSTER", "BY"] (ignored (optionalNameList grammar false))
  if grammar.isAmong [.bigquery, .generic] then
    ignored (grammar.settings "OPTIONS")
  grammar.afterWordsIn [.clickhouse, .generic] ["TO"] grammar.someName
  grammar.afterWordsIn [.snowflake, .generic] ["COMMENT"] do
    expectSymbol "="
    ignored singleQuoted
  expectKeyword "AS"
  let _ ← grammar.query
  if grammar.isAmong [.redshift, .generic] then
    ignored (keywords ["WITH", "NO", "SCHEMA", "BINDING"])

def createIndex (grammar : Grammar) : Reader Unit := do
  let _ ← keyword "CONCURRENTLY"
  let guarded ← keywords ["IF", "NOT", "EXISTS"]
  let unnamed ← onlyIf (!guarded) (keyword "ON")
  unless unnamed do
    grammar.someName
    expectKeyword "ON"
  grammar.someName
  afterWords ["USING"] (ignored name)
  let _ ← inParentheses (grammar.list grammar.orderItem)
  afterWords ["INCLUDE"] (ignored (nameList grammar false))
  afterWords ["NULLS"] (do let _ ← keyword "NOT"; expectKeyword "DISTINCT")
  grammar.afterWordsIn [.generic, .postgresql] ["WITH"]
    (ignored (inParentheses grammar.expressionTexts))
  let _ ← grammar.condition?

def createSchema (grammar : Grammar) : Reader Unit := do
  let _ ← keywords ["IF", "NOT", "EXISTS"]
  if ← keyword "AUTHORIZATION" then
    ignored name
  else
    grammar.someName
    afterWords ["AUTHORIZATION"] (ignored name)

def createDatabase (grammar : Grammar) : Reader Unit := do
  let _ ← keywords ["IF", "NOT", "EXISTS"]
  grammar.someName
  let place? := whenRead (do return (← oneOf? ["LOCATION", "MANAGEDLOCATION"]).isSome)
    (stringText grammar.dialect)
  ignored (many place?)

/-- A constant, or NULL for none. -/
def constantOrNone (grammar : Grammar) : Reader Unit := do
  unless ← keyword "NULL" do ignored (value grammar.dialect)

/-- What a role may or may not do, each as one word. -/
def rolePowers : List String :=
  ["LOGIN", "NOLOGIN", "INHERIT", "NOINHERIT", "BYPASSRLS", "NOBYPASSRLS", "CREATEDB",
    "NOCREATEDB", "CREATEROLE", "NOCREATEROLE", "SUPERUSER", "NOSUPERUSER", "REPLICATION",
    "NOREPLICATION"]

/-- One option that a role may have from the start or be given later, if one follows. -/
def roleOption? (grammar : Grammar) : Reader (Option Unit) := do
  match ← oneOf? ("PASSWORD" :: "CONNECTION" :: "VALID" :: rolePowers) with
  | none => return none
  | some "PASSWORD" =>
    grammar.constantOrNone
    return some ()
  | some "CONNECTION" =>
    expectKeyword "LIMIT"
    ignored numeral
    return some ()
  | some "VALID" =>
    expectKeyword "UNTIL"
    ignored (value grammar.dialect)
    return some ()
  | some _ => return some ()

/-- One membership that a role has from the start, if one follows. -/
def roleMembership? (grammar : Grammar) : Reader (Option Unit) := do
  match ← oneOf? ["IN", "ROLE", "ADMIN", "USER"] with
  | none => return none
  | some word =>
    if word = "IN" then
      ignored (expectOneOf ["ROLE", "GROUP"])
    ignored (grammar.list name)
    return some ()

def createRole (grammar : Grammar) : Reader Unit := do
  let _ ← keywords ["IF", "NOT", "EXISTS"]
  grammar.someNames
  let _ ← keyword "WITH"
  if grammar.dialect = .postgresql then
    ignored (many (firstOf? [grammar.roleOption?, grammar.roleMembership?]))
  grammar.afterWordsIn [.mssql] ["AUTHORIZATION"] grammar.someName

def createSequence (grammar : Grammar) : Reader Unit := do
  let _ ← keywords ["IF", "NOT", "EXISTS"]
  grammar.someName
  afterWords ["AS"] (ignored grammar.typeText)
  sequenceOptions
  afterWords ["OWNED", "BY"] grammar.someName

def typeField (grammar : Grammar) : Reader Unit := do
  let _ ← name
  let _ ← grammar.typeText
  afterWords ["COLLATE"] grammar.someName

/-- The fields of a type up to the closing parenthesis, before which a comma may stand. -/
def typeFields (grammar : Grammar) : Nat → Reader Unit
  | 0 => unexpected
  | fuel + 1 => do
    grammar.typeField
    let more ← symbol ","
    unless ← symbol ")" do
      if more then typeFields grammar fuel else unexpected

/-- A type: the labels of an enumeration, or fields. -/
def createType (grammar : Grammar) : Reader Unit := do
  grammar.someName
  expectKeyword "AS"
  if ← onlyIf (grammar.dialect = .postgresql) (keyword "ENUM") then
    ignored (inParentheses (grammar.listBefore ")" name))
  else if ← symbol "(" then
    unless ← symbol ")" do
      grammar.typeFields ((← rest).length + 1)

def createExtension : Reader Unit := do
  let _ ← keywords ["IF", "NOT", "EXISTS"]
  let _ ← name
  afterWords ["WITH"] do
    afterWords ["SCHEMA"] (ignored name)
    afterWords ["VERSION"] (ignored name)
    ignored (keyword "CASCADE")

/-- A table that a module keeps. -/
def createVirtualTable (grammar : Grammar) : Reader Unit := do
  expectKeyword "TABLE"
  let _ ← keywords ["IF", "NOT", "EXISTS"]
  grammar.someName
  expectKeyword "USING"
  let _ ← name
  ignored (optionalNameList grammar false)

/-- A table whose rows are kept elsewhere. -/
def createExternalTable (grammar : Grammar) : Reader CreateTable := do
  expectKeyword "TABLE"
  let _ ← keywords ["IF", "NOT", "EXISTS"]
  let table ← qualifiedName grammar.dialect
  let (columns, constraints) ← grammar.columns
  grammar.distribution
  let _ ← many grammar.storage?
  let _ ← grammar.settings "TBLPROPERTIES"
  return { name := table, columns, constraints }

/-- A secret kept for later connections. -/
def createSecret (grammar : Grammar) : Reader Unit := do
  let _ ← keywords ["IF", "NOT", "EXISTS"]
  unless ← peekSymbol "(" do
    let placed ← keyword "IN"
    let _ ← attempt name
    unless placed do afterWords ["IN"] (ignored (attempt name))
  let _ ← inParentheses do
    expectKeyword "TYPE"
    let _ ← name
    if ← symbol "," then
      ignored (grammar.list (do let _ ← name; name))

/-- Whom a rule about rows holds for, and what it tests. -/
def policyScope (grammar : Grammar) : Reader Unit := do
  afterWords ["TO"] (ignored (grammar.list name))
  afterWords ["USING"] (ignored (inParentheses grammar.expression))
  afterWords ["WITH", "CHECK"] (ignored (inParentheses grammar.expression))

/-- A rule about who may see which rows. -/
def createPolicy (grammar : Grammar) : Reader Unit := do
  let _ ← name
  expectKeyword "ON"
  grammar.someName
  afterWords ["AS"] (ignored (expectOneOf ["PERMISSIVE", "RESTRICTIVE"]))
  afterWords ["FOR"] (ignored (expectOneOf ["ALL", "SELECT", "INSERT", "UPDATE", "DELETE"]))
  grammar.policyScope

end Grammar

end Sql

end OrmCode
