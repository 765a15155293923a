import OrmCode.Sql.Grammar.Types

/-!
# Function calls

The arguments of a function and the clauses that may follow them, as text in
the normal form.
-/

namespace OrmCode

namespace Sql

/-- What the tokens after a word say about it when periods follow. -/
inductive DottedEnd
  | star (names : List Name) (rest : List Token)
  | plain
  | broken

/-- The names after a word up to a star, if the names end so. -/
def dottedEnd : List Token → DottedEnd
  | .symbol "." :: .word text quote? :: rest =>
    match dottedEnd rest with
    | .star names left => .star (⟨text, quote?⟩ :: names) left
    | other => other
  | .symbol "." :: .string .single text :: rest =>
    match dottedEnd rest with
    | .star names left => .star (⟨text, some '\x27'⟩ :: names) left
    | other => other
  | .symbol "." :: .symbol "*" :: rest => .star [] rest
  | .symbol "." :: _ => .broken
  | _ => .plain

namespace Grammar

open Reader

/-- A wildcard, a wildcard of one table, or an expression. -/
def selectable (grammar : Grammar) : Reader SelectItem := do
  let plain := do return SelectItem.unnamed (← grammar.expression)
  let dotted := fun (first : Name) (after : List Token) => do
    match dottedEnd after with
    | .star names left =>
      set left
      return SelectItem.everythingOf (first :: names) ""
    | .plain => plain
    | .broken => unexpected
  match ← rest with
  | .symbol "*" :: after =>
    set after
    return .everything ""
  | .word text quote? :: after => dotted ⟨text, quote?⟩ after
  | .string .single text :: after => dotted ⟨text, some '\x27'⟩ after
  | _ => plain

/-- The text of a wildcard or an expression. -/
def selectableText (grammar : Grammar) : Reader String := do
  return (← grammar.selectable).write

/-- The direction of an expression to sort by. -/
def direction? : Reader (Option Bool) := do
  return match ← oneOf? ["ASC", "DESC"] with
    | some "ASC" => some true
    | some _ => some false
    | none => none

/-- Where rows without a value are sorted. -/
def nullOrder : Reader String := do
  if ← keywords ["NULLS", "FIRST"] then return " NULLS FIRST"
  else if ← keywords ["NULLS", "LAST"] then return " NULLS LAST"
  else return ""

/-- The missing rows to be filled in. -/
def filling (grammar : Grammar) : Reader String := do
  if ← onlyIf (grammar.isAmong [.clickhouse, .generic]) (keywords ["WITH", "FILL"]) then
    let start ← textWhen (keyword "FROM") (do return " FROM " ++ (← grammar.expressionText))
    let stop ← textWhen (keyword "TO") (do return " TO " ++ (← grammar.expressionText))
    let step ← textWhen (keyword "STEP") (do return " STEP " ++ (← grammar.expressionText))
    return " WITH FILL" ++ start ++ stop ++ step
  else
    return ""

/-- An expression to sort by. -/
def orderItem (grammar : Grammar) : Reader OrderItem := do
  let expression ← grammar.expression
  let direction? ← direction?
  let nulls ← nullOrder
  let filled ← grammar.filling
  return { expression, direction?, options := nulls ++ filled }

/-- The text of expressions to sort by. -/
def orderText (grammar : Grammar) : Reader String := do
  return commaSeparated ((← grammar.list grammar.orderItem).map OrderItem.write)

/-- What becomes of missing values in a window function. -/
def nullTreatment : Reader String := do
  match ← oneOf? ["RESPECT", "IGNORE"] with
  | some word =>
    expectKeyword "NULLS"
    return " " ++ word ++ " NULLS"
  | none => return ""

/-- One end of the frame of a window. -/
def frameBound (grammar : Grammar) : Reader String := do
  if ← keywords ["CURRENT", "ROW"] then
    return "CURRENT ROW"
  else
    let distance ←
      if ← keyword "UNBOUNDED" then pure "UNBOUNDED" else grammar.expressionText
    return distance ++ " " ++ (← expectOneOf ["PRECEDING", "FOLLOWING"])

def frame (grammar : Grammar) : Reader String := do
  let units ← expectOneOf ["ROWS", "RANGE", "GROUPS"]
  if ← keyword "BETWEEN" then
    let first ← grammar.frameBound
    expectKeyword "AND"
    return units ++ " BETWEEN " ++ first ++ " AND " ++ (← grammar.frameBound)
  else
    return units ++ " " ++ (← grammar.frameBound)

/-- A window after its opening parenthesis. -/
def windowBody (grammar : Grammar) : Reader String := do
  let named? ← whenRead (nextIs Token.isPlainWord) name
  let partition? ← whenRead (keywords ["PARTITION", "BY"]) grammar.expressionTexts
  let order? ← whenRead (keywords ["ORDER", "BY"]) grammar.orderText
  let frame? ← whenRead (do return !(← peekSymbol ")")) grammar.frame
  expectSymbol ")"
  return " ".intercalate (named?.toList.map Name.write ++
    partition?.toList.map ("PARTITION BY " ++ ·) ++ order?.toList.map ("ORDER BY " ++ ·) ++
    frame?.toList)

/-- What becomes of a list that is too long. -/
def overflow (grammar : Grammar) : Reader String := do
  if ← keywords ["ON", "OVERFLOW"] then
    if ← keyword "ERROR" then
      return " ON OVERFLOW ERROR"
    else
      expectKeyword "TRUNCATE"
      let filler? ← if ← nextIs (fun token => token.isKeyword "WITH" || token.isKeyword "WITHOUT")
        then pure none else some <$> valueText grammar.dialect
      let word ← expectOneOf ["WITH", "WITHOUT"]
      expectKeyword "COUNT"
      return " ON OVERFLOW TRUNCATE" ++ (filler?.elim "" (" " ++ ·)) ++ " " ++ word ++ " COUNT"
  else
    return ""

/-- The sign between the name of an argument and its value, as a token where the
dialect has it. -/
def argumentSign? (grammar : Grammar) (token : Token) : Option String :=
  if token.isKeyword "VALUE" then some "VALUE"
  else if token.isSymbol "=>" && grammar.dialect ≠ .mssql then some "=>"
  else if token.isSymbol "=" && grammar.dialect = .duckdb then some "="
  else if token.isSymbol ":=" && grammar.isAmong [.duckdb, .generic] then some ":="
  else if token.isSymbol ":" && grammar.isAmong [.postgresql, .mssql] then some ":"
  else none

/-- The value of an argument after its name and the sign between them. -/
def namedArgument (grammar : Grammar) (named sign : String) : Reader String := do
  skip 1
  return named ++ " " ++ sign ++ " " ++ (← grammar.selectableText)

/-- One argument of a function.  In some dialects any expression may name it, in
the others a name. -/
def argument (grammar : Grammar) : Reader String := do
  if grammar.isAmong [.postgresql, .mssql] then
    let first ← grammar.selectable
    match first, (← peek?).bind grammar.argumentSign? with
    | .unnamed named, some sign => grammar.namedArgument named.write sign
    | _, _ => return first.write
  else
    match (← peekSecond?).bind grammar.argumentSign? with
    | some sign => grammar.namedArgument (← name).write sign
    | none => grammar.selectableText

/-- Whether duplicates count, at the start of the arguments. -/
def duplicateTreatment : Reader String := do
  let all ← keyword "ALL"
  let distinct ← keyword "DISTINCT"
  if all && distinct then unexpected
  else if all then return "ALL "
  else if distinct then return "DISTINCT "
  else return ""

/-- Whether missing values become members of a document. -/
def missingMembers : Reader String := do
  if ← keywords ["ABSENT", "ON", "NULL"] then return " ABSENT ON NULL"
  else if ← keywords ["NULL", "ON", "NULL"] then return " NULL ON NULL"
  else return ""

/-- The arguments of a function after the opening parenthesis, and whether they
say what becomes of missing values. -/
def arguments (grammar : Grammar) : Reader (String × Bool) := do
  let membersFirst ← missingMembers
  if ← symbol ")" then
    return (parenthesized (Text.trim membersFirst), false)
  else
    let duplicates ← duplicateTreatment
    let items ← grammar.list grammar.argument
    let nulls ← if grammar.isAmong [.generic, .bigquery, .snowflake] then nullTreatment else pure ""
    let order ← textWhen (keywords ["ORDER", "BY"]) (do
      return " ORDER BY " ++ (← grammar.orderText))
    let limit ← textWhen (keyword "LIMIT") (do return " LIMIT " ++ (← grammar.expressionText))
    let bound ← textWhen (onlyIf (grammar.isAmong [.generic, .bigquery]) (keyword "HAVING")) (do
      let kind ← expectOneOf ["MIN", "MAX"]
      return " HAVING " ++ kind ++ " " ++ (← grammar.expressionText))
    let separator ← textWhen (onlyIf (grammar.isAmong [.generic, .mysql]) (keyword "SEPARATOR")) (do
      return " SEPARATOR " ++ (← valueText grammar.dialect))
    let tooLong ← grammar.overflow
    let membersLast ← missingMembers
    expectSymbol ")"
    let clauses := membersFirst ++ nulls ++ order ++ limit ++ bound ++ separator ++ tooLong ++
      membersLast
    return (parenthesized (duplicates ++ commaSeparated items ++ clauses), nulls != "")

/-- The clauses that may follow the arguments of a function. -/
def callClauses (grammar : Grammar) (nullsTreated : Bool) : Reader String := do
  let group ← textWhen (keywords ["WITHIN", "GROUP"]) (do
    expectSymbol "("
    expectKeywords ["ORDER", "BY"]
    let order ← grammar.orderText
    expectSymbol ")"
    return " WITHIN GROUP (ORDER BY " ++ order ++ ")")
  let filter ←
    textWhen (onlyIf grammar.dialect.filterDuringAggregation (keyword "FILTER")) (do
      expectSymbol "("
      expectKeyword "WHERE"
      let condition ← grammar.expressionText
      expectSymbol ")"
      return " FILTER (WHERE " ++ condition ++ ")")
  let nulls ← if nullsTreated then pure "" else nullTreatment
  let window ← textWhen (keyword "OVER") (do
    if ← symbol "(" then
      return " OVER " ++ parenthesized (← grammar.windowBody)
    else
      return " OVER " ++ (← name).write)
  return group ++ filter ++ nulls ++ window

/-- A call of a function, from its opening parenthesis on. -/
def callOf (grammar : Grammar) (function : QualifiedName) : Reader Expr := do
  expectSymbol "("
  if ← onlyIf (grammar.dialect = .snowflake)
      (nextIs fun token => token.isKeyword "SELECT" || token.isKeyword "WITH") then
    let query ← grammar.query
    expectSymbol ")"
    return .call function (parenthesized query.write)
  else
    let (first, nullsTreated) ← grammar.arguments
    if ← onlyIf (grammar.isAmong [.clickhouse, .generic]) (symbol "(") then
      let (second, nullsTreated) ← grammar.arguments
      return .call function (first ++ second ++ (← grammar.callClauses nullsTreated))
    else
      return .call function (first ++ (← grammar.callClauses nullsTreated))

/-- A function of the current time, whose parentheses may be missing. -/
def timeCall (grammar : Grammar) (function : Name) : Reader Expr := do
  if ← symbol "(" then
    return .call [function] (← grammar.arguments).1
  else
    return .call [function] ""

end Grammar

end Sql

end OrmCode
