import OrmCode.Sql.Dialect
import OrmCode.Sql.Reader
import OrmCode.Text.Blank
import OrmCode.Text.WholeNumber

/-!
# Names, constants and numbers

The smallest parts of the grammar, and the context in which all of it is read:
the dialect, whether a column is being defined, and the grammar one level
deeper, through which every nesting goes.
-/

namespace OrmCode

namespace Sql

/-- The grammar one level deeper.  Nesting goes through it, so that it ends. -/
structure Deeper where
  expression : Nat → Reader Expr
  operand : Reader Expr
  query : Reader Query
  reference : Reader TableReference
  statement : Reader ParsedStatement

/-- The context in which the grammar is read. -/
structure Grammar where
  dialect : Dialect
  inColumn : Bool := false
  deeper : Bool → Deeper

namespace Grammar

open Reader

def isAmong (grammar : Grammar) (dialects : List Dialect) : Bool :=
  grammar.dialect.isAmong dialects

/-- An expression whose operators all bind more tightly than `precedence`. -/
def expressionAbove (grammar : Grammar) (precedence : Nat) : Reader Expr :=
  (grammar.deeper grammar.inColumn).expression precedence

def expression (grammar : Grammar) : Reader Expr :=
  grammar.expressionAbove 0

def expressionText (grammar : Grammar) : Reader String := do
  return (← grammar.expression).write

def query (grammar : Grammar) : Reader Query :=
  (grammar.deeper grammar.inColumn).query

def queryInParentheses (grammar : Grammar) : Reader String := do
  return parenthesized (← inParentheses grammar.query).write

/-- Items separated by commas. -/
def list {α : Type} (grammar : Grammar) (reader : Reader α) : Reader (List α) :=
  separated grammar.dialect.trailingCommas reader

/-- Items separated by commas before a closing symbol, or none at all. -/
def listBefore {α : Type} (grammar : Grammar) (closing : String) (reader : Reader α) :
    Reader (List α) := do
  if ← peekSymbol closing then
    return []
  else if grammar.dialect.trailingCommas && (← peekSymbol ",") &&
      ((← peekSecond?).any (Token.isSymbol closing)) then
    skip 1
    return []
  else
    grammar.list reader

/-- The texts of expressions separated by commas. -/
def expressionTexts (grammar : Grammar) : Reader String := do
  return commaSeparated ((← grammar.list grammar.expression).map Expr.write)

end Grammar

namespace Reader

/-- A name: a word, or a string between single or double quotes. -/
def name : Reader Name := do
  match ← next with
  | .word text quote? => return ⟨text, quote?⟩
  | .string .single text => return ⟨text, some '\x27'⟩
  | .string .double text => return ⟨text, some '\x22'⟩
  | _ => unexpected

/-- Names separated by periods, at most `fuel` of them. -/
def dottedNames : Nat → Reader QualifiedName
  | 0 => unexpected
  | fuel + 1 => do
    let first ← name
    if ← symbol "." then
      return first :: (← dottedNames fuel)
    else
      return [first]

/-- The parts of a quoted name that periods divide. -/
def dividedName (name : Name) : List Name :=
  (Text.split (· == '.') name.text).map fun part => { name with text := part }

/-- A name with its qualifiers.  In one dialect a quoted name may hold several. -/
def qualifiedName (dialect : Dialect) : Reader QualifiedName := do
  let names ← dottedNames ((← rest).length + 1)
  return if dialect = .bigquery then names.flatMap dividedName else names

def qualifiedText (dialect : Dialect) : Reader String := do
  return writeQualified (← qualifiedName dialect)

/-- The text of a string, which one word that is no keyword may stand for. -/
def stringText (dialect : Dialect) : Reader String := do
  let token ← next
  match token with
  | .word text _ => if token.isPlainWord then return text else unexpected
  | .string .single text => return text
  | .string .double text => return text
  | .string .unicode text => return text
  | .string .escaped text =>
    if dialect.isAmong [.postgresql, .generic] then return text else unexpected
  | _ => unexpected

def singleQuoted : Reader String := do
  match ← next with
  | .string .single text => return text
  | _ => unexpected

def wholeNumber : Reader Nat := do
  match ← next with
  | .number numeral false =>
    match Text.count? numeral with
    | some value => return value
    | none => unexpected
  | _ => unexpected

/-- A number as it is written. -/
def numeral : Reader String := do
  match ← next with
  | .number numeral long => return (Value.number numeral long).write
  | _ => unexpected

/-- A number with an optional sign. -/
def signedNumeral : Reader String := do
  if ← symbol "+" then
    return "+" ++ (← numeral)
  else if ← symbol "-" then
    return "-" ++ (← numeral)
  else
    numeral

def wordValue (dialect : Dialect) (text : String) : Option Char → Reader Value
  | none =>
    match Text.capitals text with
    | "TRUE" => if dialect.booleanLiterals then return .boolean true else unexpected
    | "FALSE" => if dialect.booleanLiterals then return .boolean false else unexpected
    | "NULL" => return .null
    | _ => unexpected
  | some quote =>
    if quote = '\x22' then return .string .double text
    else if quote = '\x27' then return .string .single text
    else unexpected

def value (dialect : Dialect) : Reader Value := do
  match ← next with
  | .word text quote? => wordValue dialect text quote?
  | .number numeral long => return .number numeral long
  | .string form text => return .string form text
  | .placeholder text => return .placeholder text
  | .symbol sign =>
    if sign = ":" ∨ sign = "@" then
      match ← next with
      | .word text _ => return .placeholder (sign ++ text)
      | .number numeral false => return .placeholder (sign ++ numeral)
      | _ => unexpected
    else unexpected
  | _ => unexpected

def valueText (dialect : Dialect) : Reader String := do
  return (← value dialect).write

/-- A whole number between parentheses, with them, if an opening one is next. -/
def precision : Reader String := do
  if ← peekSymbol "(" then
    return parenthesized (toString (← inParentheses wholeNumber))
  else
    return ""

/-- Names between parentheses; nothing may stand between them if `mayBeEmpty`. -/
def nameList (grammar : Grammar) (mayBeEmpty : Bool) : Reader (List Name) := do
  expectSymbol "("
  if ← onlyIf mayBeEmpty (symbol ")") then
    return []
  else
    let names ← grammar.list name
    expectSymbol ")"
    return names

/-- Names between parentheses if an opening one is next, and no names otherwise. -/
def optionalNameList (grammar : Grammar) (mayBeEmpty : Bool) : Reader (List Name) := do
  if ← peekSymbol "(" then
    nameList grammar mayBeEmpty
  else
    return []

/-- A part of a date or time.  In some dialects any name may stand for one. -/
def dateTimeField (dialect : Dialect) : Reader String := do
  let token ← next
  match token with
  | .word text quote? =>
    match token.keyword? with
    | some "WEEK" =>
      if ← onlyIf (dialect.isAmong [.bigquery, .generic]) (peekSymbol "(") then
        return "WEEK" ++ parenthesized (← inParentheses name).write
      else
        return "WEEK"
    | some field =>
      if dateTimeFields.contains field then return field else named ⟨text, quote?⟩
    | none => named ⟨text, quote?⟩
  | .string .single text => named ⟨text, some '\x27'⟩
  | _ => unexpected
where
  /-- A field that a name stands for. -/
  named (field : Name) : Reader String :=
    if dialect.isAmong [.snowflake, .postgresql, .generic] then return field.write else unexpected

end Reader

end Sql

end OrmCode
