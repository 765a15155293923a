import OrmCode.Sql.Grammar.Special

/-!
# Expressions

An expression is an operand, continued by operators as long as they bind more
tightly than what surrounds the expression.  All operators between two operands
group to the left.
-/

namespace OrmCode

namespace Sql

namespace Grammar

open Reader

/-- A typed string such as a date: a known type before a string. -/
def typedString? (grammar : Grammar) : Reader (Option Expr) :=
  attempt do
    let type ← grammar.type
    if type.custom then unexpected
    else if type.text = "INTERVAL" then grammar.interval
    else return .other (type.text ++ " " ++ betweenQuotes '\x27' (← stringText grammar.dialect))

/-- The parts of a name after its first part, each after a period, and whether
a wildcard ends it. -/
def nameParts (grammar : Grammar) : Nat → Reader (List Name × Bool)
  | 0 => unexpected
  | fuel + 1 => do
    if ← symbol "." then
      match ← next with
      | .word text quote? =>
        let (others, wildcard) ← nameParts grammar fuel
        return (⟨text, quote?⟩ :: others, wildcard)
      | .string .single text =>
        let (others, wildcard) ← nameParts grammar fuel
        return (⟨text, some '\x27'⟩ :: others, wildcard)
      | .symbol "*" => if grammar.dialect = .postgresql then return ([], true) else unexpected
      | _ => unexpected
    else
      return ([], false)

/-- A column or a call, after the first part of its name. -/
def columnOrCall (grammar : Grammar) (first : Name) : Reader Expr := do
  let (others, wildcard) ← grammar.nameParts ((← rest).length + 1)
  if wildcard then
    return .other (writeQualified (first :: others) ++ ".*")
  else if ← peekSymbol "(" then
    match grammar.isAmong [.snowflake, .mssql], ← rest with
    | true, _ :: .symbol "+" :: .symbol ")" :: after =>
      set after
      return .other (writeQualified (first :: others) ++ " (+)")
    | _, _ => grammar.callOf (first :: others)
  else
    return .column (first :: others)

/-- A string that a character set introduces. -/
def introduced (grammar : Grammar) (set : String) : Reader Expr := do
  return .other (set ++ " " ++ (← valueText grammar.dialect))

/-- Whether a string that may follow the name of a character set is next. -/
def introducedNext : Reader Bool :=
  nextIs fun
    | .string .single _ | .string .double _ | .string .hexadecimal _ => true
    | _ => false

/-- What a word stands for that announces no form of its own. -/
def plainWord (grammar : Grammar) (first : Name) : Reader Expr := do
  if ← nextIs fun token => token.isSymbol "(" || token.isSymbol "." then
    grammar.columnOrCall first
  else if ← onlyIf (first.text.toList.head? == some '_') introducedNext then
    grammar.introduced first.text
  else if ← onlyIf grammar.dialect.lambdaFunctions (symbol "->") then
    return .other (first.write ++ " -> " ++ (← grammar.expressionText))
  else
    return .column [first]

/-- What one reader reads, or else another, failing as the first one does. -/
def orElse (first second : Reader Expr) : Reader Expr := fun tokens =>
  match first.run tokens with
  | .ok result => .ok result
  | .error failure =>
    match second.run tokens with
    | .ok result => .ok result
    | .error _ => .error failure

/-- Whether a keyword is never a name. -/
def isReserved (grammar : Grammar) (word : String) : Bool :=
  notNames.contains word && !(grammar.dialect = .snowflake && word == "INTERVAL")

def wordOperand (grammar : Grammar) (token : Token) (spelled : Name) : Reader Expr := do
  match token.keyword? with
  | none => grammar.plainWord spelled
  | some word =>
    let form? ←
      if word = "ARRAY" then grammar.arrayForm? spelled else grammar.announced? word spelled
    match form? with
    | none => grammar.plainWord spelled
    | some form =>
      if grammar.isReserved word then form else orElse form (grammar.plainWord spelled)

/-- An anonymous function of several parameters, after its opening parenthesis. -/
def lambda? (grammar : Grammar) : Reader (Option Expr) := do
  if grammar.dialect.lambdaFunctions then
    attempt do
      let parameters ← grammar.list name
      expectSymbol ")"
      expectSymbol "->"
      let body ← grammar.expressionText
      return Expr.other (parenthesized (commaSeparated (parameters.map Name.write)) ++ " -> " ++
        body)
  else
    return none

def parenthesizedContent (grammar : Grammar) : Reader Expr := do
  if ← queryNext then
    return .subquery (← grammar.query).write
  else
    match ← grammar.list grammar.expression with
    | [inner] => return .nested inner
    | items => return .other (parenthesized (commaSeparated (items.map Expr.write)))

/-- What follows an opening parenthesis, up to the closing one and a field after it. -/
def group (grammar : Grammar) : Reader Expr := do
  match ← grammar.lambda? with
  | some lambda => return lambda
  | none =>
    let content ← grammar.parenthesizedContent
    expectSymbol ")"
    if ← symbol "." then
      match ← next with
      | .word text quote? => return .other (content.write ++ "." ++ (Name.mk text quote?).write)
      | _ => unexpected
    else
      return content

def symbolOperand (grammar : Grammar) (sign : String) : Reader Expr := do
  match sign with
  | "[" => grammar.array ""
  | "-" => return .minus (← grammar.expressionAbove grammar.levels.product)
  | "+" => return .other ("+" ++ (← grammar.expressionAbove grammar.levels.product).write)
  | "(" => grammar.group
  | "!" =>
    if grammar.dialect = .hive then
      return .other ("!" ++ (← grammar.expressionAbove grammar.levels.negation).write)
    else unexpected
  | _ =>
    if grammar.dialect = .postgresql ∧ ["!!", "|/", "||/", "@", "~"].contains sign then
      return .other (sign ++ (← grammar.expressionAbove grammar.levels.sum).write)
    else unexpected

/-- An operand without a collation after it. -/
def bareOperand (grammar : Grammar) : Reader Expr := do
  let token ← next
  match token with
  | .word text quote? => grammar.wordOperand token ⟨text, quote?⟩
  | .number numeral long => return .value (.number numeral long)
  | .string .escaped text =>
    if grammar.isAmong [.postgresql, .generic] then return .value (.string .escaped text)
    else unexpected
  | .string form text => return .value (.string form text)
  | .placeholder text => return .value (.placeholder text)
  | .symbol sign =>
    if sign = ":" ∨ (sign = "@" ∧ grammar.dialect ≠ .postgresql) then
      match ← next with
      | .word text _ => return .value (.placeholder (sign ++ text))
      | .number numeral false => return .value (.placeholder (sign ++ numeral))
      | _ => unexpected
    else grammar.symbolOperand sign
  | _ => unexpected

/-- An operand with the collation that may follow it outside of column definitions. -/
def operand (grammar : Grammar) : Reader Expr := do
  match ← grammar.typedString? with
  | some typed => return typed
  | none =>
    let bare ← grammar.bareOperand
    if ← onlyIf (!grammar.inColumn) (keyword "COLLATE") then
      return .other (bare.write ++ " COLLATE " ++ (← qualifiedText grammar.dialect))
    else
      return bare

/-- The operator between two operands that a symbol stands for in the dialect. -/
def symbolOperator? (grammar : Grammar) : String → Option BinaryOperator
  | "==" => some (.other "=")
  | "+" => some .plus
  | "-" => some .minus
  | "*" => some .multiply
  | "/" => some .divide
  | "%" => some .modulo
  | "||" => some .concatenate
  | "//" => if grammar.isAmong [.duckdb, .generic] then some (.other "//") else none
  | "<<" => if grammar.isAmong [.postgresql, .duckdb, .generic] then some (.other "<<") else none
  | ">>" => if grammar.isAmong [.postgresql, .duckdb, .generic] then some (.other ">>") else none
  | "#" => if grammar.dialect = .postgresql then some (.other "#") else none
  | "&&" => if grammar.isAmong [.postgresql, .generic] then some (.other "&&") else none
  | "^@" => if grammar.isAmong [.postgresql, .generic] then some (.other "^@") else none
  | text =>
    if ["<=>", "=", "<>", ">", ">=", "<", "<=", "|", "^", "&", "~", "~*", "!~", "!~*", "~~", "~~*",
      "!~~", "!~~*", "->", "->>", "#>", "#>>", "@>", "<@", "#-", "@?", "@@", "?", "?&",
      "?|"].contains text then some (.other text)
    else none

/-- The parts of an operator's name between parentheses, up to `fuel` of them. -/
def operatorName : Nat → Reader String
  | 0 => unexpected
  | fuel + 1 => do
    let part ← match ← next with
      | .word text quote? => pure (Name.mk text quote?).write
      | .symbol text => pure text
      | .operator text => pure text
      | .number numeral long => pure (Value.number numeral long).write
      | .string form text => pure (form.write text)
      | .placeholder text => pure text
      | .stray character => pure character.toString
    if ← symbol "." then
      return part ++ "." ++ (← operatorName fuel)
    else
      return part

/-- The operator between two operands that is next, if one is; it is taken. -/
def binaryOperator? (grammar : Grammar) : Reader (Option BinaryOperator) := do
  match ← peek? with
  | some (.symbol text) =>
    match grammar.symbolOperator? text with
    | some operator =>
      skip 1
      return some operator
    | none => return none
  | some (.operator text) =>
    skip 1
    return some (.other text)
  | some token =>
    match token.keyword? with
    | some "AND" => skip 1; return some .and
    | some "OR" => skip 1; return some .or
    | some "XOR" => skip 1; return some (.other "XOR")
    | some "OPERATOR" =>
      if grammar.isAmong [.postgresql, .generic] then
        skip 1
        let operator ← inParentheses (do operatorName ((← rest).length + 1))
        return some (.other ("OPERATOR" ++ parenthesized operator))
      else
        return none
    | _ => return none
  | none => return none

/-- The operators that may compare with any or all of several values. -/
def comparesMany (operator : BinaryOperator) : Bool :=
  [.other ">", .other "<", .other ">=", .other "<=", .other "=", .other "<>"].contains operator

/-- A comparison with any or all of several values, after the word for it. -/
def comparedWithMany (grammar : Grammar) (left : Expr) (operator : BinaryOperator) (word : String)
    (precedence : Nat) : Reader Expr := do
  let opened ← rest
  expectSymbol "("
  let right ←
    if ← queryNext then
      set opened
      grammar.expressionAbove precedence
    else
      let right ← grammar.expressionAbove precedence
      expectSymbol ")"
      pure right
  if comparesMany operator then
    let operand := match right with
      | .subquery query => parenthesized query
      | other => parenthesized other.write
    return .other (left.write ++ " " ++ operator.write ++ " " ++ word ++ operand)
  else
    unexpected

def isTest (grammar : Grammar) (left : Expr) : Reader Expr := do
  let negated ← keyword "NOT"
  if ← keyword "NULL" then
    return .isNull negated left
  else
    match ← oneOf? ["TRUE", "FALSE", "UNKNOWN"] with
    | some word => return .other (left.write ++ " IS " ++ negation negated ++ word)
    | none =>
      expectKeywords ["DISTINCT", "FROM"]
      return .other (left.write ++ " IS " ++ negation negated ++ "DISTINCT FROM " ++
        (← grammar.expressionText))

/-- The character that takes the meaning from the next one in a pattern. -/
def escape? (grammar : Grammar) : Reader (Option String) :=
  whenRead (keyword "ESCAPE") (stringText grammar.dialect)

def likeTest (grammar : Grammar) (kind : PatternKind) (negated : Bool) (left : Expr) :
    Reader Expr := do
  let any ← keyword "ANY"
  let pattern ← grammar.expressionAbove grammar.levels.like
  return .like kind negated any left pattern (← grammar.escape?)

def membership (grammar : Grammar) (negated : Bool) (left : Expr) : Reader Expr := do
  let lead := left.write ++ " " ++ negation negated ++ "IN "
  if ← keyword "UNNEST" then
    let items ← inParentheses grammar.expressionText
    return .other (lead ++ "UNNEST" ++ parenthesized items)
  else
    expectSymbol "("
    if ← queryNext then
      let query ← grammar.query
      expectSymbol ")"
      return .other (lead ++ parenthesized query.write)
    else
      let items ←
        if grammar.dialect.emptyInLists then grammar.listBefore ")" grammar.expression
        else grammar.list grammar.expression
      expectSymbol ")"
      return .inList negated left items

def range (grammar : Grammar) (negated : Bool) (left : Expr) : Reader Expr := do
  let low ← grammar.expressionAbove grammar.levels.between
  expectKeyword "AND"
  let high ← grammar.expressionAbove grammar.levels.between
  return .between negated left low high

/-- A test that NOT may stand before. -/
def negatableTest (grammar : Grammar) (left : Expr) : Reader Expr := do
  let negated ← keyword "NOT"
  let lead := left.write ++ " " ++ negation negated
  match ← oneOf? ["REGEXP", "RLIKE", "IN", "BETWEEN", "LIKE", "ILIKE"] with
  | some "IN" => grammar.membership negated left
  | some "BETWEEN" => grammar.range negated left
  | some "LIKE" => grammar.likeTest .like negated left
  | some "ILIKE" => grammar.likeTest .ilike negated left
  | some word =>
    let pattern ← grammar.expressionAbove grammar.levels.like
    return .other (lead ++ word ++ " " ++ pattern.write)
  | none =>
    expectKeywords ["SIMILAR", "TO"]
    let pattern ← grammar.expressionAbove grammar.levels.like
    let escape := (← grammar.escape?).elim "" fun escape => " ESCAPE '" ++ escape ++ "'"
    return .other (lead ++ "SIMILAR TO " ++ pattern.write ++ escape)

/-- One index, or the bounds of a slice, up to the closing bracket. -/
def subscript (grammar : Grammar) : Reader String := do
  let lower ← if ← peekSymbol ":" then pure "" else grammar.expressionText
  let bound := do
    if ← symbol ":" then
      if ← nextIs fun token => token.isSymbol "]" || token.isSymbol ":" then return ":"
      else return ":" ++ (← grammar.expressionText)
    else return ""
  let upper ← bound
  let stride ← bound
  expectSymbol "]"
  return "[" ++ lower ++ upper ++ stride ++ "]"

/-- One more step into a document, if one follows: a field or an index. -/
def documentStep? (grammar : Grammar) : Reader (Option String) := do
  if ← symbol "." then
    return some ("." ++ (← name).write)
  else if ← symbol "[" then
    let index ← grammar.expressionText
    expectSymbol "]"
    return some ("[" ++ index ++ "]")
  else
    return none

/-- A path into a document, after the colon before it. -/
def documentPath (grammar : Grammar) : Reader String := do
  let first ← if ← peekSymbol "[" then pure "" else pure (← name).write
  return ":" ++ first ++ "".intercalate (← many grammar.documentStep?)

/-- An operator after its left operand that is no operator between two operands. -/
def tested (grammar : Grammar) (left : Expr) (precedence : Nat) : Reader Expr := do
  let token ← next
  match token with
  | .symbol "::" => return .other (left.write ++ "::" ++ (← grammar.typeText))
  | .symbol "!" =>
    if grammar.dialect = .postgresql then return .other (left.write ++ "!") else unexpected
  | .symbol "[" => return .other (left.write ++ (← grammar.subscript))
  | .symbol ":" => return .other (left.write ++ (← grammar.documentPath))
  | _ =>
    match token.keyword? with
    | some "IS" => grammar.isTest left
    | some "AT" =>
      expectKeywords ["TIME", "ZONE"]
      return .other (left.write ++ " AT TIME ZONE " ++
        (← grammar.expressionAbove precedence).write)
    | some "COLLATE" =>
      return .other (left.write ++ " COLLATE " ++ (← qualifiedText grammar.dialect))
    | _ => unexpected

/-- Whether a test that NOT may stand before is next. -/
def negatableNext : Reader Bool :=
  nextIs fun token => token.keyword?.any
    ["NOT", "IN", "BETWEEN", "LIKE", "ILIKE", "SIMILAR", "REGEXP", "RLIKE"].contains

/-- An expression made of its left operand and the operator that follows it. -/
def continued (grammar : Grammar) (left : Expr) (precedence : Nat) : Reader Expr := do
  if ← onlyIf (grammar.dialect = .mysql) (keyword "DIV") then
    return .binary (.other "DIV") left (← grammar.expression)
  else
    match ← grammar.binaryOperator? with
    | some operator =>
      match ← oneOf? ["ANY", "ALL", "SOME"] with
      | some word => grammar.comparedWithMany left operator word precedence
      | none => return .binary operator left (← grammar.expressionAbove precedence)
    | none =>
      if ← negatableNext then grammar.negatableTest left
      else grammar.tested left precedence

/-- An expression made of its left operand and the next operator, if that binds
more tightly than `least`. -/
def continued? (grammar : Grammar) (least : Nat) (left : Expr) : Reader (Option Expr) := do
  let precedence := grammar.precedenceOf (← rest)
  if precedence ≤ least then
    return none
  else
    return some (← grammar.continued left precedence)

/-- An expression whose operators all bind more tightly than `least`. -/
def readExpression (grammar : Grammar) (least : Nat) : Reader Expr := do
  let first ← grammar.operand
  iterate (grammar.continued? least) first

end Grammar

end Sql

end OrmCode
