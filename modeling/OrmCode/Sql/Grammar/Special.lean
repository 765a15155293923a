import OrmCode.Sql.Grammar.Function
import OrmCode.Sql.Grammar.Precedence

/-!
# Expressions that start with a keyword

Conditionals, conversions and the functions whose arguments are divided by
words.  Code is never made of them, so each is read into its text.
-/

namespace OrmCode

namespace Sql

namespace Grammar

open Reader

def branches (grammar : Grammar) : Nat → Reader String
  | 0 => unexpected
  | fuel + 1 => do
    let condition ← grammar.expressionText
    expectKeyword "THEN"
    let result ← grammar.expressionText
    let branch := " WHEN " ++ condition ++ " THEN " ++ result
    if ← keyword "WHEN" then
      return branch ++ (← branches grammar fuel)
    else
      return branch

def conditional (grammar : Grammar) : Reader Expr := do
  let subject ←
    if ← keyword "WHEN" then pure ""
    else
      let subject ← grammar.expressionText
      expectKeyword "WHEN"
      pure (" " ++ subject)
  let chosen ← grammar.branches ((← rest).length + 1)
  let otherwise ← textWhen (keyword "ELSE") (do return " ELSE " ++ (← grammar.expressionText))
  expectKeyword "END"
  return .other ("CASE" ++ subject ++ chosen ++ otherwise ++ " END")

def castFormat (grammar : Grammar) : Reader String := do
  if ← keyword "FORMAT" then
    let format ← valueText grammar.dialect
    if ← keywords ["AT", "TIME", "ZONE"] then
      return " FORMAT " ++ format ++ " AT TIME ZONE " ++ (← valueText grammar.dialect)
    else
      return " FORMAT " ++ format
  else
    return ""

/-- A conversion to a type, by the name of the function that does it. -/
def cast (grammar : Grammar) (function : String) : Reader Expr := do
  expectSymbol "("
  let operand ← grammar.expressionText
  expectKeyword "AS"
  let type ← grammar.typeText
  let format ← grammar.castFormat
  expectSymbol ")"
  return .other (function ++ parenthesized (operand ++ " AS " ++ type ++ format))

/-- A conversion whose type comes before the value. -/
def convertTypeFirst (grammar : Grammar) (function : String) : Reader Expr := do
  expectSymbol "("
  let type ← grammar.typeText
  expectSymbol ","
  let operand ← grammar.expressionText
  let styles ← textWhen (symbol ",") (do return ", " ++ (← grammar.expressionTexts))
  expectSymbol ")"
  return .other (function ++ parenthesized (type ++ ", " ++ operand ++ styles))

/-- A conversion to a type or to a character set. -/
def convert (grammar : Grammar) (function : String) : Reader Expr := do
  if grammar.dialect = .mssql then
    grammar.convertTypeFirst function
  else
    expectSymbol "("
    let operand ← grammar.expressionText
    if ← keyword "USING" then
      let characters ← qualifiedText grammar.dialect
      expectSymbol ")"
      return .other (function ++ parenthesized (operand ++ " USING " ++ characters))
    else
      expectSymbol ","
      let type ← grammar.typeText
      let characters ← textWhen (keywords ["CHARACTER", "SET"]) (do
        return " CHARACTER SET " ++ (← qualifiedText grammar.dialect))
      expectSymbol ")"
      return .other (function ++ parenthesized (operand ++ ", " ++ type ++ characters))

/-- Whether a query has rows. -/
def existence (grammar : Grammar) (negated : Bool) : Reader Expr := do
  return .other (negation negated ++ "EXISTS " ++ (← grammar.queryInParentheses))

/-- A part of a date or time taken out of it. -/
def extraction (grammar : Grammar) : Reader Expr := do
  expectSymbol "("
  let field ← dateTimeField grammar.dialect
  let divider ←
    if ← keyword "FROM" then pure " FROM "
    else if grammar.isAmong [.snowflake, .generic] then do expectSymbol ","; pure ", "
    else unexpected
  let operand ← grammar.expressionText
  expectSymbol ")"
  return .other ("EXTRACT" ++ parenthesized (field ++ divider ++ operand))

/-- A number or time rounded up or down. -/
def rounding (grammar : Grammar) (function : String) : Reader Expr := do
  expectSymbol "("
  let operand ← grammar.expressionText
  let unit ←
    if ← keyword "TO" then pure (" TO " ++ (← dateTimeField grammar.dialect))
    else if ← symbol "," then pure (", " ++ (← numeral))
    else pure ""
  expectSymbol ")"
  return .other (function ++ parenthesized (operand ++ unit))

/-- The place of one text in another, or an ordinary call of a function of that name. -/
def position (grammar : Grammar) (function : Name) : Reader Expr := do
  let special? ← attempt do
    expectSymbol "("
    let part ← grammar.expressionAbove grammar.levels.between
    expectKeyword "IN"
    let whole ← grammar.expressionText
    expectSymbol ")"
    return Expr.other ("POSITION" ++ parenthesized (part.write ++ " IN " ++ whole))
  match special? with
  | some special => return special
  | none => grammar.callOf [function]

def substring (grammar : Grammar) : Reader Expr := do
  expectSymbol "("
  let operand ← grammar.expressionText
  let commas ← symbol ","
  let start ← textWhen (if commas then pure true else keyword "FROM") (do
    return (if commas then ", " else " FROM ") ++ (← grammar.expressionText))
  let counted ← keyword "FOR"
  let length ← textWhen (if counted then pure true else symbol ",") (do
    return (if commas then ", " else " FOR ") ++ (← grammar.expressionText))
  expectSymbol ")"
  return .other ("SUBSTRING" ++ parenthesized (operand ++ start ++ length))

/-- A text with a part replaced. -/
def overlay (grammar : Grammar) : Reader Expr := do
  expectSymbol "("
  let operand ← grammar.expressionText
  expectKeyword "PLACING"
  let replacement ← grammar.expressionText
  expectKeyword "FROM"
  let start ← grammar.expressionText
  let length ← textWhen (keyword "FOR") (do return " FOR " ++ (← grammar.expressionText))
  expectSymbol ")"
  return .other ("OVERLAY" ++
    parenthesized (operand ++ " PLACING " ++ replacement ++ " FROM " ++ start ++ length))

/-- A text without some characters at its ends. -/
def trimming (grammar : Grammar) : Reader Expr := do
  expectSymbol "("
  let ends := (← oneOf? ["BOTH", "LEADING", "TRAILING"]).elim "" (· ++ " ")
  let operand ← grammar.expressionText
  if ← keyword "FROM" then
    let whole ← grammar.expressionText
    expectSymbol ")"
    return .other ("TRIM" ++ parenthesized (ends ++ operand ++ " FROM " ++ whole))
  else
    let characters ←
      textWhen (onlyIf (grammar.isAmong [.snowflake, .bigquery, .generic]) (symbol ",")) (do
        return ", " ++ (← grammar.expressionTexts))
    expectSymbol ")"
    return .other ("TRIM" ++ parenthesized (ends ++ operand ++ characters))

/-- Whether the next token is a part of a date or time. -/
def dateTimeFieldNext : Reader Bool :=
  nextIs fun token => token.keyword?.any dateTimeFields.contains

/-- One or two whole numbers between parentheses after the unit of an interval. -/
def intervalPrecision (two : Bool) : Reader String := do
  if ← symbol "(" then
    let first ← wholeNumber
    let second ← textWhen (onlyIf two (symbol ",")) (do return ", " ++ toString (← wholeNumber))
    expectSymbol ")"
    return " " ++ parenthesized (toString first ++ second)
  else
    return ""

def intervalUnit (grammar : Grammar) : Reader String := do
  let first ← dateTimeField grammar.dialect
  if first = "SECOND" then
    return " " ++ first ++ (← intervalPrecision true)
  else
    let size ← intervalPrecision false
    let last ← textWhen (keyword "TO") (do
      let last ← dateTimeField grammar.dialect
      return " TO " ++ last ++ (← if last = "SECOND" then intervalPrecision false else pure ""))
    return " " ++ first ++ size ++ last

def interval (grammar : Grammar) : Reader Expr := do
  let amount ←
    if grammar.dialect.intervalNeedsUnit then grammar.expression
    else (grammar.deeper grammar.inColumn).operand
  if ← dateTimeFieldNext then
    return .other ("INTERVAL " ++ amount.write ++ (← grammar.intervalUnit))
  else if grammar.dialect.intervalNeedsUnit then
    unexpected
  else
    return .other ("INTERVAL " ++ amount.write)

/-- The items of an array after its opening bracket. -/
def array (grammar : Grammar) (lead : String) : Reader Expr := do
  let items ← grammar.listBefore "]" grammar.expression
  expectSymbol "]"
  return .other (lead ++ "[" ++ commaSeparated (items.map Expr.write) ++ "]")

/-- A search in several columns. -/
def fullText (grammar : Grammar) : Reader Expr := do
  let columns ← nameList grammar false
  expectKeyword "AGAINST"
  expectSymbol "("
  let sought ← valueText grammar.dialect
  let mode ←
    if ← keywords ["IN", "NATURAL", "LANGUAGE", "MODE", "WITH", "QUERY", "EXPANSION"] then
      pure " IN NATURAL LANGUAGE MODE WITH QUERY EXPANSION"
    else if ← keywords ["IN", "NATURAL", "LANGUAGE", "MODE"] then
      pure " IN NATURAL LANGUAGE MODE"
    else if ← keywords ["IN", "BOOLEAN", "MODE"] then pure " IN BOOLEAN MODE"
    else if ← keywords ["WITH", "QUERY", "EXPANSION"] then pure " WITH QUERY EXPANSION"
    else pure ""
  expectSymbol ")"
  return .other ("MATCH " ++ parenthesized (commaSeparated (columns.map Name.write)) ++
    " AGAINST " ++ parenthesized (sought ++ mode))

/-- One field of a structure with an optional name. -/
def structureItem (grammar : Grammar) : Reader String := do
  let value ← grammar.expressionText
  let named ← textWhen (keyword "AS") (do return " AS " ++ (← name).write)
  return value ++ named

def structured (grammar : Grammar) : Reader Expr := do
  let fields ←
    if ← symbol "<" then
      let (fields, closesTwo) ←
        TypeText.structureFields grammar.type ((← rest).length + 1)
      if closesTwo then unexpected else pure ("<" ++ commaSeparated fields ++ ">")
    else pure ""
  let items ← inParentheses (grammar.list grammar.structureItem)
  return .other ("STRUCT" ++ fields ++ parenthesized (commaSeparated items))

/-- The query whose rows make an array. -/
def arrayOfQuery (grammar : Grammar) (function : Name) : Reader Expr := do
  return .call [function] (← grammar.queryInParentheses)

/-- Whether the next token starts a query. -/
def queryNext : Reader Bool :=
  nextIs fun token => token.isKeyword "SELECT" || token.isKeyword "WITH"

def negated (grammar : Grammar) : Reader Expr := do
  if ← keyword "EXISTS" then
    grammar.existence true
  else
    return .not (← grammar.expressionAbove grammar.levels.negation)

/-- The form of an expression that a keyword announces, if it announces one here. -/
def announced? (grammar : Grammar) (word : String) (spelled : Name) :
    Reader (Option (Reader Expr)) := do
  let opens ← peekSymbol "("
  let queryOpens := (← peekSecond?).any fun token =>
    token.isKeyword "SELECT" || token.isKeyword "WITH"
  let when := fun (condition : Bool) (form : Reader Expr) => if condition then some form else none
  return match word with
    | "TRUE" => when grammar.dialect.booleanLiterals (pure (.value (.boolean true)))
    | "FALSE" => when grammar.dialect.booleanLiterals (pure (.value (.boolean false)))
    | "NULL" => some (pure (.value .null))
    | "CURRENT_CATALOG" | "CURRENT_USER" | "SESSION_USER" | "USER" =>
      when (grammar.isAmong [.postgresql, .generic]) (pure (.call [spelled] ""))
    | "CURRENT_TIMESTAMP" | "CURRENT_TIME" | "CURRENT_DATE" | "LOCALTIME" | "LOCALTIMESTAMP" =>
      some (grammar.timeCall spelled)
    | "CASE" => some grammar.conditional
    | "CONVERT" => some (grammar.convert "CONVERT")
    | "TRY_CONVERT" => when (grammar.dialect = .mssql) (grammar.convert "TRY_CONVERT")
    | "CAST" => some (grammar.cast "CAST")
    | "TRY_CAST" => some (grammar.cast "TRY_CAST")
    | "SAFE_CAST" => some (grammar.cast "SAFE_CAST")
    | "EXISTS" =>
      when (grammar.dialect ≠ .databricks ∨ queryOpens = true) (grammar.existence false)
    | "EXTRACT" => some grammar.extraction
    | "CEIL" => some (grammar.rounding "CEIL")
    | "FLOOR" => some (grammar.rounding "FLOOR")
    | "POSITION" => when opens (grammar.position spelled)
    | "SUBSTRING" => some grammar.substring
    | "OVERLAY" => some grammar.overlay
    | "TRIM" => some grammar.trimming
    | "INTERVAL" => some grammar.interval
    | "NOT" => some grammar.negated
    | "MATCH" => when (grammar.isAmong [.mysql, .generic]) grammar.fullText
    | "STRUCT" => when (grammar.isAmong [.bigquery, .databricks, .generic]) grammar.structured
    | _ => none

def arrayForm? (grammar : Grammar) (spelled : Name) : Reader (Option (Reader Expr)) := do
  if ← peekSymbol "[" then
    return some (do skip 1; grammar.array "ARRAY")
  else if ← onlyIf (!grammar.isAmong [.clickhouse, .databricks]) (peekSymbol "(") then
    return some (grammar.arrayOfQuery spelled)
  else
    return none

end Grammar

end Sql

end OrmCode
