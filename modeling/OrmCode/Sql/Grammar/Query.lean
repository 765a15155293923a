import OrmCode.Sql.Grammar.Table

/-!
# Queries

A query is a SELECT, rows of values, a table or another query, combined by set
operations and surrounded by clauses for order, counts and locks.
-/

namespace OrmCode

namespace Sql

namespace Grammar

open Reader

/-- A name, or several between parentheses, after a keyword of a wildcard. -/
def wildcardNames (grammar : Grammar) (alwaysParenthesized : Bool) : Reader String := do
  if ← peekSymbol "(" then
    return parenthesized (commaSeparated ((← nameList grammar false).map Name.write))
  else
    let only ← name
    return if alwaysParenthesized then parenthesized only.write else only.write

def wildcardReplacement (grammar : Grammar) : Reader String := do
  let value ← grammar.expressionText
  let word ← textWhen (keyword "AS") (pure "AS ")
  return value ++ " " ++ word ++ (← name).write

/-- A column of a wildcard and its new name. -/
def wildcardRenaming : Reader String := do
  let column ← name
  expectKeyword "AS"
  return column.write ++ " AS " ++ (← name).write

/-- What a wildcard leaves out, replaces or renames. -/
def wildcardOptions (grammar : Grammar) : Reader String := do
  let alike ← textWhen (onlyIf (grammar.isAmong [.generic, .snowflake]) (keyword "ILIKE")) (do
    return " ILIKE " ++ StringForm.single.write (← singleQuoted))
  let excluded ← textWhen
    (onlyIf (alike = "" ∧ grammar.isAmong [.generic, .duckdb, .snowflake] = true)
      (keyword "EXCLUDE")) (do
    return " EXCLUDE " ++ (← grammar.wildcardNames false))
  let exceptions ← textWhen
    (onlyIf (grammar.isAmong [.generic, .bigquery, .clickhouse, .databricks])
      (keyword "EXCEPT")) (do
    return " EXCEPT " ++ (← grammar.wildcardNames true))
  let replaced ← textWhen
    (onlyIf (grammar.isAmong [.generic, .bigquery, .clickhouse, .duckdb, .snowflake])
      (keyword "REPLACE")) (do
    if ← symbol "(" then
      let items ← grammar.list grammar.wildcardReplacement
      expectSymbol ")"
      return " REPLACE " ++ parenthesized (commaSeparated items)
    else
      return " REPLACE " ++ parenthesized (← grammar.wildcardReplacement))
  let renamed ← textWhen (onlyIf (grammar.isAmong [.generic, .snowflake]) (keyword "RENAME")) (do
    if ← symbol "(" then
      let items ← grammar.list wildcardRenaming
      expectSymbol ")"
      return " RENAME " ++ parenthesized (commaSeparated items)
    else
      return " RENAME " ++ (← wildcardRenaming))
  return alike ++ excluded ++ exceptions ++ replaced ++ renamed

def isBareFrom (name : Name) : Bool :=
  name.quote?.isNone && Text.lower name.text == "from"

def selectItem (grammar : Grammar) : Reader SelectItem := do
  match ← grammar.selectable with
  | .everything _ => return .everything (← grammar.wildcardOptions)
  | .everythingOf table _ => return .everythingOf table (← grammar.wildcardOptions)
  | .aliased expression label => return .aliased expression label
  | .unnamed expression =>
    match expression with
    | .column [first] =>
      if isBareFrom first then unexpected
    | _ => pure ()
    match grammar.dialect, expression with
    | .mssql, .binary (.other "=") (.column [label]) right => return .aliased right label
    | _, _ =>
      match ← alias? notColumnAliases with
      | some label => return .aliased expression label
      | none => return .unnamed expression

def selectItems (grammar : Grammar) : Reader (List SelectItem) :=
  separated (grammar.dialect.trailingCommas || grammar.dialect.selectionTrailingCommas)
    grammar.selectItem

/-- The number of rows to stop after, at the start of a SELECT. -/
def top (grammar : Grammar) : Reader String := do
  if ← keyword "TOP" then
    let count ←
      if ← symbol "(" then
        let count ← grammar.expressionText
        expectSymbol ")"
        pure (parenthesized count)
      else
        match ← next with
        | .number numeral _ =>
          match Text.count? numeral with
          | some count => pure (toString count)
          | none => unexpected
        | _ => unexpected
    let percent ← textWhen (keyword "PERCENT") (pure " PERCENT")
    let ties ← textWhen (keywords ["WITH", "TIES"]) (pure " WITH TIES")
    return " TOP " ++ count ++ percent ++ ties
  else
    return ""

/-- Whether duplicates are left out of a SELECT. -/
def distinct (grammar : Grammar) : Reader String := do
  let all ← keyword "ALL"
  if ← keyword "DISTINCT" then
    if all then unexpected
    else if ← keyword "ON" then
      expectSymbol "("
      let columns ← if ← peekSymbol ")" then pure "" else grammar.expressionTexts
      expectSymbol ")"
      return " DISTINCT ON " ++ parenthesized columns
    else
      return " DISTINCT"
  else
    return ""

/-- The table that a SELECT fills. -/
def intoTable (grammar : Grammar) : Reader String :=
  textWhen (keyword "INTO") (do
    let temporary ← textWhen (do return (← oneOf? ["TEMP", "TEMPORARY"]).isSome)
      (pure " TEMPORARY")
    let unlogged ← textWhen (keyword "UNLOGGED") (pure " UNLOGGED")
    let table ← textWhen (keyword "TABLE") (pure " TABLE")
    return " INTO" ++ temporary ++ unlogged ++ table ++ " " ++ (← qualifiedText grammar.dialect))

def lateralView? (grammar : Grammar) : Reader (Option String) :=
  whenRead (keywords ["LATERAL", "VIEW"]) (do
    let outer ← textWhen (keyword "OUTER") (pure " OUTER")
    let function ← grammar.expressionText
    let table ← qualifiedText grammar.dialect
    let columns ← grammar.list (alias? ["WHERE", "GROUP", "CLUSTER", "HAVING", "LATERAL"])
    let aliases := columns.filterMap id
    return " LATERAL VIEW" ++ outer ++ " " ++ function ++ " " ++ table ++
      (if aliases.isEmpty then "" else " AS " ++ commaSeparated (aliases.map Name.write)))

def groupingTuple (grammar : Grammar) : Reader String := do
  if ← symbol "(" then
    if ← symbol ")" then
      return "()"
    else
      let items ← grammar.expressionTexts
      expectSymbol ")"
      return parenthesized items
  else
    return parenthesized (← grammar.expressionText)

def groupItem (grammar : Grammar) : Reader String := do
  let tuples := fun (word : String) => do
    return word ++ " " ++ parenthesized (commaSeparated
      (← inParentheses (grammar.list grammar.groupingTuple)))
  if grammar.dialect.groupingSets then
    if ← keywords ["GROUPING", "SETS"] then tuples "GROUPING SETS"
    else if ← keyword "CUBE" then tuples "CUBE"
    else if ← keyword "ROLLUP" then tuples "ROLLUP"
    else if (← peekSymbol "(") && ((← peekSecond?).any (Token.isSymbol ")")) then
      skip 2
      return "()"
    else grammar.expressionText
  else grammar.expressionText

def groupModifier? (grammar : Grammar) : Reader (Option String) :=
  whenRead (onlyIf (grammar.isAmong [.clickhouse, .generic]) (keyword "WITH")) (do
    return " WITH " ++ (← expectOneOf ["ROLLUP", "CUBE", "TOTALS"]))

def grouping (grammar : Grammar) : Reader String :=
  textWhen (keywords ["GROUP", "BY"]) (do
    let items ←
      if ← keyword "ALL" then pure "ALL"
      else pure (commaSeparated (← grammar.list grammar.groupItem))
    return " GROUP BY " ++ items ++ "".intercalate (← many grammar.groupModifier?))

def expressionsAfter (grammar : Grammar) (first second : String) : Reader String :=
  textWhen (keywords [first, second]) (do
    return " " ++ first ++ " " ++ second ++ " " ++ (← grammar.expressionTexts))

def namedWindow (grammar : Grammar) : Reader String := do
  let named ← name
  expectKeyword "AS"
  if ← symbol "(" then
    return named.write ++ " AS " ++ parenthesized (← grammar.windowBody)
  else if grammar.isAmong [.bigquery, .generic] then
    return named.write ++ " AS " ++ (← name).write
  else
    unexpected

/-- The named windows and the condition on their values, in either order. -/
def windows (grammar : Grammar) : Reader String := do
  let named := textWhen (keyword "WINDOW") (do
    return " WINDOW " ++ commaSeparated (← grammar.list grammar.namedWindow))
  let qualification := textWhen (keyword "QUALIFY") (do
    return " QUALIFY " ++ (← grammar.expressionText))
  if ← peekKeyword "WINDOW" then
    return (← named) ++ (← qualification)
  else
    return (← qualification) ++ (← named)

/-- How rows are connected to a hierarchy. -/
def hierarchy (grammar : Grammar) : Reader String := do
  if grammar.isAmong [.snowflake, .generic, .mssql] then
    let start := textWhen (keywords ["START", "WITH"]) (do
      return " START WITH " ++ (← grammar.expressionText))
    let connection := grammar.expressionsAfter "CONNECT" "BY"
    if ← peekKeyword "START" then
      return (← start) ++ (← connection)
    else
      return (← connection) ++ (← start)
  else
    return ""

def conditionText (grammar : Grammar) (allowed : Bool) (word : String) : Reader String :=
  textWhen (onlyIf allowed (keyword word)) (do
    return " " ++ word ++ " " ++ (← grammar.expressionText))

def condition? (grammar : Grammar) : Reader (Option Expr) :=
  whenRead (keyword "WHERE") grammar.expression

def select (grammar : Grammar) : Reader Select := do
  expectKeyword "SELECT"
  let kind ← textWhen (onlyIf (grammar.dialect = .bigquery) (keyword "AS")) (do
    return " AS " ++ (← expectOneOf ["VALUE", "STRUCT"]))
  let topFirst := grammar.isAmong [.mssql, .redshift]
  let topBefore ← if topFirst then grammar.top else pure ""
  let distinct ← grammar.distinct
  let topAfter ← if topFirst then pure "" else grammar.top
  let items ← grammar.selectItems
  let into ← grammar.intoTable
  let sources ← if ← keyword "FROM" then grammar.list grammar.readReference else pure []
  let lateralViews := "".intercalate (← many grammar.lateralView?)
  let prewhere ← grammar.conditionText (grammar.isAmong [.clickhouse, .generic]) "PREWHERE"
  let condition? ← grammar.condition?
  let groupBy ← grammar.grouping
  let cluster ← grammar.expressionsAfter "CLUSTER" "BY"
  let distribute ← grammar.expressionsAfter "DISTRIBUTE" "BY"
  let sort ← grammar.expressionsAfter "SORT" "BY"
  let having ← grammar.conditionText true "HAVING"
  let windows ← grammar.windows
  let hierarchy ← grammar.hierarchy
  return {
    kind, distinct, top := topBefore ++ topAfter, topFirst, items, into, sources, lateralViews,
    prewhere, condition?, groupBy, distribution := cluster ++ distribute ++ sort, having, windows,
    hierarchy }

/-- A table as a query: up to three tokens, of which a period may be the second. -/
def tableQuery : Reader String := do
  match (← rest).take 3 with
  | .word schema _ :: .symbol "." :: others =>
    skip 3
    match others with
    | [.word table _] => return "TABLE " ++ schema ++ "." ++ table
    | _ => unexpected
  | .word table _ :: _ =>
    skip 3
    return "TABLE " ++ table
  | _ => unexpected

/-- The main part of a query without set operations. -/
def simpleBody (grammar : Grammar) : Reader QueryBody := do
  if ← peekKeyword "SELECT" then
    return .select (← grammar.select)
  else if ← symbol "(" then
    let inner ← grammar.query
    expectSymbol ")"
    return .other (parenthesized inner.write)
  else if ← keyword "VALUES" then
    let (explicit, rows) ← grammar.rowsOfValues grammar.dialect.emptyRows
    return .values explicit rows
  else if ← keyword "TABLE" then
    return .other (← tableQuery)
  else
    unexpected

def setPrecedence : String → Nat
  | "INTERSECT" => 20
  | _ => 10

/-- What becomes of duplicate rows in a set operation. -/
def setQuantifier : Reader String := do
  if ← keywords ["DISTINCT", "BY", "NAME"] then return " DISTINCT BY NAME"
  else if ← keywords ["ALL", "BY", "NAME"] then return " ALL BY NAME"
  else if ← keywords ["BY", "NAME"] then return " BY NAME"
  else if ← keyword "ALL" then return " ALL"
  else if ← keyword "DISTINCT" then return " DISTINCT"
  else return ""

/-- The main part of a query with the set operations that bind more tightly than `least`. -/
def bodyAbove (grammar : Grammar) : Nat → Nat → Reader QueryBody
  | 0, _ => unexpected
  | fuel + 1, least => do
    let first ← grammar.simpleBody
    iterate (fun left => do
      let token? ← peek?
      match ["UNION", "EXCEPT", "INTERSECT"].find? fun word =>
          token?.any (Token.isKeyword word) with
      | none => return none
      | some word =>
        if setPrecedence word ≤ least then return none
        else
          skip 1
          let quantifier ← setQuantifier
          let right ← bodyAbove grammar fuel (setPrecedence word)
          return some (.other (left.write ++ " " ++ word ++ quantifier ++ " " ++ right.write)))
      first

def order (grammar : Grammar) : Reader (List OrderItem) := do
  if ← keywords ["ORDER", "BY"] then grammar.list grammar.orderItem else return []

/-- How missing rows are computed. -/
def interpolation (grammar : Grammar) : Reader String :=
  textWhen (onlyIf (grammar.isAmong [.clickhouse, .generic]) (keyword "INTERPOLATE")) (do
    if ← symbol "(" then
      let items ← grammar.listBefore ")" do
        let column ← name
        let value ← textWhen (keyword "AS") (do return " AS " ++ (← grammar.expressionText))
        return column.write ++ value
      expectSymbol ")"
      return " INTERPOLATE " ++ parenthesized (commaSeparated items)
    else
      return " INTERPOLATE")

/-- The counts of a query: how many rows, after how many others, and the word
after the latter. -/
structure Counts where
  limit? : Option Expr := none
  offset? : Option Expr := none
  unit : String := ""

/-- LIMIT and a count, where ALL stands for none. -/
def limitClause (grammar : Grammar) (counts : Counts) : Reader Counts := do
  if ← onlyIf counts.limit?.isNone (keyword "LIMIT") then
    if ← keyword "ALL" then return { counts with limit? := none }
    else return { counts with limit? := some (← grammar.expression) }
  else
    return counts

def offsetClause (grammar : Grammar) (counts : Counts) : Reader Counts := do
  if ← onlyIf counts.offset?.isNone (keyword "OFFSET") then
    let count ← grammar.expression
    let unit := (← oneOf? ["ROW", "ROWS"]).elim "" (" " ++ ·)
    return { counts with offset? := some count, unit }
  else
    return counts

/-- A comma after a count, which makes that one the number of rows to pass over. -/
def commaClause (grammar : Grammar) (counts : Counts) : Reader Counts := do
  if ← onlyIf (grammar.dialect.limitComma && counts.limit?.isSome && counts.offset?.isNone)
      (symbol ",") then
    return { limit? := some (← grammar.expression), offset? := counts.limit? }
  else
    return counts

/-- The counts of a query, in either order. -/
def counts (grammar : Grammar) : Reader Counts := do
  let once := fun (given : Counts) => do
    grammar.commaClause (← grammar.offsetClause (← grammar.limitClause given))
  once (← once {})

/-- The first rows of a query, in the words of the standard. -/
def fetch (grammar : Grammar) : Reader String :=
  textWhen (keyword "FETCH") (do
    let _ ← expectOneOf ["FIRST", "NEXT"]
    let quantity ←
      if (← oneOf? ["ROW", "ROWS"]).isSome then pure ""
      else
        let quantity ← valueText grammar.dialect
        let percent ← textWhen (keyword "PERCENT") (pure " PERCENT")
        let _ ← expectOneOf ["ROW", "ROWS"]
        pure (" " ++ quantity ++ percent)
    let extent ←
      if ← keyword "ONLY" then pure "ONLY"
      else
        expectKeywords ["WITH", "TIES"]
        pure "WITH TIES"
    return " FETCH FIRST" ++ quantity ++ " ROWS " ++ extent)

/-- One lock on the rows of a query, if one follows. -/
def lock? (grammar : Grammar) : Reader (Option String) :=
  whenRead (keyword "FOR") (do
    if ← keyword "BROWSE" then
      return " FOR BROWSE"
    else
      let strength ← expectOneOf ["UPDATE", "SHARE"]
      let table ← textWhen (keyword "OF") (do return " OF " ++ (← qualifiedText grammar.dialect))
      let waiting ←
        if ← keyword "NOWAIT" then pure " NOWAIT"
        else if ← keywords ["SKIP", "LOCKED"] then pure " SKIP LOCKED"
        else pure ""
      return " FOR " ++ strength ++ table ++ waiting)

/-- The form that the rows of a query are written in. -/
def outputForm (grammar : Grammar) : Reader String :=
  textWhen (onlyIf (grammar.isAmong [.clickhouse, .generic]) (keyword "FORMAT")) (do
    if ← keyword "NULL" then return " FORMAT NULL"
    else return " FORMAT " ++ (← name).write)

/-- A query with a name of its own. -/
def commonTable (grammar : Grammar) : Reader String := do
  let table ← name
  let columns ← if ← peekKeyword "AS" then pure "" else grammar.aliasColumns
  expectKeyword "AS"
  let storage ←
    if grammar.dialect = .postgresql then
      if ← keyword "MATERIALIZED" then pure "MATERIALIZED "
      else textWhen (keywords ["NOT", "MATERIALIZED"]) (pure "NOT MATERIALIZED ")
    else pure ""
  let query ← grammar.queryInParentheses
  let source ← textWhen (keyword "FROM") (do return " FROM " ++ (← name).write)
  return table.write ++ columns ++ " AS " ++ storage ++ query ++ source

/-- The queries with names before the main one. -/
def commonTables (grammar : Grammar) : Reader String :=
  textWhen (keyword "WITH") (do
    let recursive ← textWhen (keyword "RECURSIVE") (pure "RECURSIVE ")
    return "WITH " ++ recursive ++ commaSeparated (← grammar.list grammar.commonTable) ++ " ")

def readQuery (grammar : Grammar) : Reader Query := do
  let commonTables ← grammar.commonTables
  if ← nextIs fun token => token.isKeyword "INSERT" || token.isKeyword "UPDATE" then
    let word := (← peek?).elim "" tokenText
    let _ ← (grammar.deeper grammar.inColumn).statement
    return { commonTables, body := .other (Text.upper word) }
  else
    let body ← grammar.bodyAbove ((← rest).length + 1) 0
    let order ← grammar.order
    let interpolation ← grammar.interpolation
    let counts ← grammar.counts
    let limitBy ← textWhen (onlyIf (grammar.isAmong [.clickhouse, .generic]) (keyword "BY")) (do
      return " BY " ++ (← grammar.expressionTexts))
    let parameters ← grammar.queryParameters
    let fetch ← grammar.fetch
    let locks := "".intercalate (← many grammar.lock?)
    let form ← grammar.outputForm
    return {
      commonTables, body, order, interpolation, limit? := counts.limit?,
      offset? := counts.offset?, offsetUnit := counts.unit, limitBy, parameters, fetch, locks,
      form }

end Grammar

end Sql

end OrmCode
