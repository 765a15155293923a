import OrmCode.Sql.Grammar.Expression

/-!
# Sources of rows

The tables, queries and functions that rows come from, with aliases and joins.
A table by name keeps its parts; every other source is kept as text.
-/

namespace OrmCode

namespace Sql

namespace Grammar

open Reader

/-- The written form of a token. -/
def tokenText : Token → String
  | .word text quote? => (Name.mk text quote?).write
  | .number numeral long => (Value.number numeral long).write
  | .string form text => form.write text
  | .placeholder text => text
  | .operator text => text
  | .symbol text => text
  | .stray character => character.toString

/-- The tokens up to the parenthesis that closes `depth` open ones. -/
def balancedTokens : Nat → List Token → Option (List Token × List Token)
  | _, [] => none
  | depth, token :: rest =>
    let deeper := if token.isSymbol "(" then depth + 1 else depth
    if token.isSymbol ")" then
      match depth with
      | 0 => some ([], rest)
      | outer + 1 => (balancedTokens outer rest).map fun (inner, after) => (token :: inner, after)
    else
      (balancedTokens deeper rest).map fun (inner, after) => (token :: inner, after)

/-- The text between balanced parentheses, whatever stands there. -/
def balanced : Reader String := do
  expectSymbol "("
  match balancedTokens 0 (← rest) with
  | some (inner, after) =>
    set after
    return parenthesized (" ".intercalate (inner.map tokenText))
  | none => unexpected

/-- An alias, after AS or on its own; on its own it is none of the reserved keywords. -/
def alias? (reserved : List String) : Reader (Option Name) := do
  let after ← keyword "AS"
  match ← peek? with
  | some token =>
    match token with
    | .word text quote? =>
      if after || !(token.keyword?.any reserved.contains) then
        skip 1
        return some ⟨text, quote?⟩
      else
        return none
    | .string .single text =>
      skip 1
      return some ⟨text, some '\x27'⟩
    | .string .double text =>
      skip 1
      return some ⟨text, some '\x22'⟩
    | _ => if after then unexpected else return none
  | none => if after then unexpected else return none

/-- A column of an alias with an optional type. -/
def aliasColumn (grammar : Grammar) : Reader String := do
  let column ← name
  let type? ← attempt grammar.typeText
  return column.write ++ (type?.elim "" (" " ++ ·))

def aliasColumns (grammar : Grammar) : Reader String := do
  if ← symbol "(" then
    let columns ← grammar.list grammar.aliasColumn
    expectSymbol ")"
    return " " ++ parenthesized (commaSeparated columns)
  else
    return ""

/-- The alias of a source of rows with its columns. -/
def tableAlias? (grammar : Grammar) : Reader (Option (Name × String)) := do
  match ← alias? notTableAliases with
  | some label => return some (label, ← grammar.aliasColumns)
  | none => return none

/-- The text of the alias of a source of rows. -/
def tableAliasText (grammar : Grammar) : Reader String := do
  return (← grammar.tableAlias?).elim "" fun (label, columns) => " AS " ++ label.write ++ columns

/-- Whether the next two tokens are a keyword and a symbol; both are taken. -/
def keywordThen (word text : String) : Reader Bool := do
  if (← peekKeyword word) && ((← peekSecond?).any (Token.isSymbol text)) then
    skip 2
    return true
  else
    return false

def queryParameters (grammar : Grammar) : Reader String := do
  if ← onlyIf (grammar.isAmong [.clickhouse, .generic]) (keyword "SETTINGS") then
    let parameters ← grammar.list do
      let key ← name
      expectSymbol "="
      return key.write ++ " = " ++ (← valueText grammar.dialect)
    return " SETTINGS " ++ commaSeparated parameters
  else
    return ""

/-- The arguments of a table function after its opening parenthesis. -/
def tableArguments (grammar : Grammar) : Reader String := do
  if ← symbol ")" then
    return "()"
  else
    let items ← if ← peekKeyword "SETTINGS" then pure [] else grammar.list grammar.argument
    let parameters ← grammar.queryParameters
    expectSymbol ")"
    return parenthesized (commaSeparated items ++ parameters)

/-- The tables turned around after a source of rows. -/
def turned? (grammar : Grammar) (factor : TableFactor) : Reader (Option TableFactor) := do
  match ← oneOf? ["PIVOT", "UNPIVOT"] with
  | some word =>
    let body ← balanced
    let label ← grammar.tableAliasText
    return some (.other (factor.write ++ " " ++ word ++ body ++ label) false)
  | none => return none

/-- A table by name with everything that may follow it. -/
def namedTable (grammar : Grammar) : Reader TableFactor := do
  let table ← qualifiedName grammar.dialect
  let partitions ←
    textWhen (onlyIf (grammar.isAmong [.mysql, .generic]) (keyword "PARTITION")) (do
      return " PARTITION " ++
        parenthesized (commaSeparated ((← nameList grammar false).map Name.write)))
  let version ← textWhen (onlyIf (grammar.isAmong [.bigquery, .mssql])
      (keywords ["FOR", "SYSTEM_TIME", "AS", "OF"])) (do
    return " FOR SYSTEM_TIME AS OF " ++ (← grammar.expressionText))
  let arguments ← textWhen (symbol "(") grammar.tableArguments
  let ordinality ← textWhen (keywords ["WITH", "ORDINALITY"]) (pure " WITH ORDINALITY")
  let alias? ← grammar.tableAlias?
  let hints ← textWhen (keywordThen "WITH" "(") (do
    let hints ← grammar.expressionTexts
    expectSymbol ")"
    return " WITH " ++ parenthesized hints)
  let factor := TableFactor.named table (partitions ++ arguments ++ ordinality)
    (alias?.map Prod.fst) (alias?.elim "" Prod.snd) (version ++ hints)
  iterate grammar.turned? factor

/-- A query as a source of rows, after its opening parenthesis. -/
def derivedTable (grammar : Grammar) (lead : String) : Reader TableFactor := do
  let query ← grammar.query
  expectSymbol ")"
  let label ← grammar.tableAliasText
  return .other (lead ++ parenthesized query.write ++ label) false

/-- A table between parentheses with the alias that may follow them. -/
def bareInParentheses (grammar : Grammar) (inner : TableFactor) : Reader TableFactor := do
  match ← grammar.tableAlias?, inner with
  | none, _ => return inner
  | some (label, columns), .named table arguments none _ hints =>
    return .named table arguments (some label) columns hints
  | some _, .named _ _ (some _) _ _ => unexpected
  | some (label, columns), .other text isJoin =>
    return .other (text ++ " AS " ++ label.write ++ columns) isJoin

/-- What follows an opening parenthesis among sources of rows: a query, a join,
or in some dialects any source. -/
def parenthesizedTable (grammar : Grammar) : Reader TableFactor := do
  match ← attempt (grammar.derivedTable "") with
  | some derived => iterate grammar.turned? derived
  | none =>
    let reference ← (grammar.deeper grammar.inColumn).reference
    let isJoin := match reference.relation with
      | .other _ isJoin => isJoin
      | .named .. => false
    if !reference.joins.isEmpty || isJoin then
      expectSymbol ")"
      let label ← grammar.tableAliasText
      return .other (parenthesized reference.write ++ label) true
    else if grammar.isAmong [.snowflake, .generic] then
      expectSymbol ")"
      grammar.bareInParentheses reference.relation
    else
      unexpected

/-- A function as a source of rows, after LATERAL. -/
def lateralTable (grammar : Grammar) : Reader TableFactor := do
  if ← symbol "(" then
    grammar.derivedTable "LATERAL "
  else
    let function ← qualifiedText grammar.dialect
    expectSymbol "("
    let arguments ← grammar.tableArguments
    let label ← grammar.tableAliasText
    return .other ("LATERAL " ++ function ++ arguments ++ label) false

/-- The rows of values as a source of rows, without parentheses around them. -/
def rowsOfValues (grammar : Grammar) (mayBeEmpty : Bool) : Reader (Bool × List (List Expr)) := do
  let rows ← grammar.list do
    let explicit ← keyword "ROW"
    expectSymbol "("
    if ← onlyIf mayBeEmpty (symbol ")") then
      return (explicit, [])
    else
      let row ← grammar.list grammar.expression
      expectSymbol ")"
      return (explicit, row)
  return (rows.any Prod.fst, rows.map Prod.snd)

/-- The items of an array as a source of rows. -/
def unnested (grammar : Grammar) : Reader TableFactor := do
  let items ← inParentheses grammar.expressionTexts
  let ordinality ← textWhen (keywords ["WITH", "ORDINALITY"]) (pure " WITH ORDINALITY")
  let label ← grammar.tableAliasText
  let offset ← textWhen (keywords ["WITH", "OFFSET"]) (do
    return " WITH OFFSET" ++ ((← alias? notColumnAliases).elim "" (" AS " ++ ·.write)))
  return .other ("UNNEST" ++ parenthesized items ++ ordinality ++ label ++ offset) false

/-- A source of rows without joins. -/
def tableFactor (grammar : Grammar) : Reader TableFactor := do
  if ← keyword "LATERAL" then
    grammar.lateralTable
  else if ← keyword "TABLE" then
    let function ← inParentheses grammar.expressionText
    let label ← grammar.tableAliasText
    return .other ("TABLE" ++ parenthesized function ++ label) false
  else if ← symbol "(" then
    grammar.parenthesizedTable
  else if (← onlyIf (grammar.isAmong [.snowflake, .databricks, .generic])
      (peekKeyword "VALUES")) && ((← peekSecond?).any (Token.isSymbol "(")) then
    skip 1
    let (explicit, rows) ← grammar.rowsOfValues false
    let label ← grammar.tableAliasText
    return .other (parenthesized (QueryBody.values explicit rows).write ++ label) false
  else if ← onlyIf (grammar.isAmong [.bigquery, .postgresql, .generic]) (keyword "UNNEST") then
    grammar.unnested
  else if (← nextIs fun token => token.isKeyword "JSON_TABLE" || token.isKeyword "OPENJSON") &&
      ((← peekSecond?).any (Token.isSymbol "(")) then
    let function ← name
    let arguments ← balanced
    let shape ← textWhen (keyword "WITH") (do return " WITH " ++ (← balanced))
    return .other (function.write ++ arguments ++ shape ++ (← grammar.tableAliasText)) false
  else
    grammar.namedTable

def joinCondition (grammar : Grammar) : Reader String := do
  if ← keyword "ON" then
    return " ON " ++ (← grammar.expressionText)
  else if ← keyword "USING" then
    return " USING" ++ parenthesized (commaSeparated ((← nameList grammar false).map Name.write))
  else
    return ""

/-- The words before JOIN on one side, with OUTER, SEMI or ANTI between them. -/
def sidedJoin (side : String) : Reader String := do
  match ← oneOf? ["OUTER", "SEMI", "ANTI", "JOIN"] with
  | some "JOIN" => return side ++ " JOIN"
  | some "OUTER" =>
    expectKeyword "JOIN"
    return side ++ " JOIN"
  | some word =>
    expectKeyword "JOIN"
    return side ++ " " ++ word ++ " JOIN"
  | none => unexpected

def joinWords? : Reader (Option String) := do
  match ← oneOf? ["INNER", "JOIN", "LEFT", "RIGHT", "ANTI", "SEMI", "FULL"] with
  | some "JOIN" => return some "JOIN"
  | some "INNER" =>
    expectKeyword "JOIN"
    return some "JOIN"
  | some "FULL" =>
    let _ ← keyword "OUTER"
    expectKeyword "JOIN"
    return some "FULL JOIN"
  | some "LEFT" => return some (← sidedJoin "LEFT")
  | some "RIGHT" => return some (← sidedJoin "RIGHT")
  | some word =>
    expectKeyword "JOIN"
    return some (word ++ " JOIN")
  | none => return none

/-- One more joined source of rows, if one follows. -/
def join? (grammar : Grammar) : Reader (Option String) := do
  let everywhere ← textWhen (keyword "GLOBAL") (pure " GLOBAL")
  let joined := fun (words : String) => do
    let factor ← grammar.tableFactor
    return some (everywhere ++ " " ++ words ++ " " ++ factor.write)
  if ← keyword "CROSS" then
    joined ("CROSS " ++ (← expectOneOf ["JOIN", "APPLY"]))
  else if ← keyword "OUTER" then
    expectKeyword "APPLY"
    joined "OUTER APPLY"
  else if ← keyword "ASOF" then
    expectKeyword "JOIN"
    let factor ← grammar.tableFactor
    expectKeyword "MATCH_CONDITION"
    let condition ← inParentheses grammar.expressionText
    return some (everywhere ++ " ASOF JOIN " ++ factor.write ++ " MATCH_CONDITION " ++
      parenthesized condition ++ (← grammar.joinCondition))
  else
    let natural ← keyword "NATURAL"
    match ← joinWords? with
    | some words =>
      let factor ← grammar.tableFactor
      let condition ← if natural then pure "" else grammar.joinCondition
      return some (everywhere ++ (if natural then " NATURAL " else " ") ++ words ++ " " ++
        factor.write ++ condition)
    | none => if natural || everywhere != "" then unexpected else return none

/-- A source of rows with its joins. -/
def readReference (grammar : Grammar) : Reader TableReference := do
  let relation ← grammar.tableFactor
  let joins ← many grammar.join?
  return { relation, joins }

end Grammar

end Sql

end OrmCode
