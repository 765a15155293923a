import OrmCode.Sql.Grammar.Operation

/-!
# Statements

The first word of a statement decides how the rest of it is read.
-/

namespace OrmCode

namespace Sql

namespace Grammar

open Reader

/-- The readers of what follows the first word of a statement that no code is made of. -/
def sideStatement? (grammar : Grammar) : String → Option (Reader Unit)
  | "KILL" => some grammar.kill
  | "FLUSH" => some grammar.flush
  | "DESC" => some (grammar.explain "DESC")
  | "DESCRIBE" => some (grammar.explain "DESCRIBE")
  | "EXPLAIN" => some (grammar.explain "EXPLAIN")
  | "ANALYZE" => some grammar.analyze
  | "TRUNCATE" => some grammar.truncate
  | "ATTACH" => some grammar.attach
  | "MSCK" => some (do
    let _ ← keyword "REPAIR"
    expectKeyword "TABLE"
    grammar.someName
    if (← oneOf? ["ADD", "DROP", "SYNC"]).isSome then expectKeyword "PARTITIONS")
  | "CACHE" => some grammar.cache
  | "DROP" => some grammar.drop
  | "DISCARD" => some (ignored
    (expectOneOf ["ALL", "PLANS", "SEQUENCES", "TEMP", "TEMPORARY"]))
  | "DECLARE" => some grammar.declaration
  | "FETCH" => some grammar.fetchRows
  | "UNCACHE" => some (do
    expectKeyword "TABLE"
    let _ ← keywords ["IF", "EXISTS"]
    grammar.someName)
  | "ALTER" => some grammar.alter
  | "CALL" => some grammar.call
  | "COPY" => some grammar.copy
  | "CLOSE" => some (do unless ← keyword "ALL" do ignored name)
  | "SET" => some grammar.set
  | "SHOW" => some grammar.showing
  | "USE" => some grammar.use
  | "GRANT" => some grammar.grant
  | "REVOKE" => some grammar.revoke
  | "START" => some (do expectKeyword "TRANSACTION"; transactionModes)
  | "BEGIN" => some grammar.begin
  | "SAVEPOINT" => some (ignored name)
  | "RELEASE" => some (do let _ ← keyword "SAVEPOINT"; ignored name)
  | "COMMIT" => some transactionEnd
  | "ROLLBACK" => some rollback
  | "ASSERT" => some (do
    let _ ← grammar.expression
    afterWords ["AS"] (ignored grammar.expression))
  | "DEALLOCATE" => some (do let _ ← keyword "PREPARE"; ignored name)
  | "EXECUTE" => some grammar.execute
  | "PREPARE" => some grammar.prepare
  | "MERGE" => some grammar.merge
  | "PRAGMA" => some grammar.pragma
  | "LOAD" => some grammar.load
  | _ => none

def dialectStatement? (grammar : Grammar) : String → Option (Reader Unit)
  | "DETACH" => inDialects [.duckdb, .generic] (do
    let _ ← keyword "DATABASE"
    let _ ← keywords ["IF", "EXISTS"]
    ignored name)
  | "LISTEN" => inDialects [.postgresql] (ignored name)
  | "UNLISTEN" => inDialects [.postgresql] (do unless ← symbol "*" do ignored name)
  | "NOTIFY" => inDialects [.postgresql] (do
    let _ ← name
    if ← symbol "," then ignored (stringText grammar.dialect))
  | "INSTALL" => inDialects [.duckdb, .generic] (ignored name)
  | "OPTIMIZE" => inDialects [.clickhouse, .generic] (do
    expectKeyword "TABLE"
    grammar.someName
    afterWords ["ON", "CLUSTER"] (ignored name)
    afterWords ["PARTITION"] (ignored grammar.expression)
    let _ ← keyword "FINAL"
    afterWords ["DEDUPLICATE"] (afterWords ["BY"] (ignored grammar.expression)))
  | "COMMENT" => inDialects [.postgresql, .generic, .snowflake] grammar.commentOn
  | "LOCK" => inDialects [.mysql] (do
    expectKeyword "TABLES"
    ignored (grammar.list lockedTable))
  | "UNLOCK" => inDialects [.mysql] (expectKeyword "TABLES")
  | _ => none
where
  /-- A reader that only some dialects have. -/
  inDialects (dialects : List Dialect) (reader : Reader Unit) : Option (Reader Unit) :=
    if grammar.isAmong dialects then some reader else none

/-- The word that a statement is named by, where that is not the one it starts with. -/
def canonicalWord : String → String
  | "EXEC" => "EXECUTE"
  | "END" => "COMMIT"
  | word => word

/-- A statement that no code is made of, from its first word on. -/
def sideStatement (grammar : Grammar) (first : String) : Reader ParsedStatement := do
  let word := canonicalWord first
  if word = "UNLOAD" then
    return .other (← grammar.unload)
  else
    match (grammar.sideStatement? word).orElse fun _ => grammar.dialectStatement? word with
    | some reader =>
      reader
      return .other word
    | none => unexpected

/-- A REPLACE statement, from its first word on. -/
def replace (grammar : Grammar) : Reader ParsedStatement := do
  if grammar.dialect = .sqlite then
    grammar.insert false
  else if grammar.isAmong [.mysql, .generic] then
    skip 1
    grammar.insert true
  else
    unexpected

def readStatement (grammar : Grammar) : Reader ParsedStatement := do
  let token? ← peek?
  match token?.bind Token.keyword? with
  | some "SELECT" | some "WITH" | some "VALUES" => return .query (← grammar.query)
  | some "CREATE" =>
    skip 1
    grammar.create
  | some "INSERT" =>
    skip 1
    grammar.insert false
  | some "REPLACE" => grammar.replace
  | some "UPDATE" =>
    skip 1
    return .update (← grammar.update)
  | some "DELETE" =>
    skip 1
    return .delete (← grammar.delete)
  | some word =>
    skip 1
    grammar.sideStatement word
  | none =>
    if ← peekSymbol "(" then return .query (← grammar.query) else unexpected

end Grammar

end Sql

end OrmCode
