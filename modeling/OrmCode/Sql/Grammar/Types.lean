import OrmCode.Sql.Grammar.Basic

/-!
# Column types

A known type is written back in capitals with its arguments in a fixed form.
Any other name is a type of its own, kept as it is written.
-/

namespace OrmCode

namespace Sql

/-- The text of a type, whether its name is of its own, and whether the token
that closed it closes the surrounding type as well. -/
structure TypeText where
  text : String
  custom : Bool := false
  closesTwo : Bool := false

namespace TypeText

open Reader

/-- The known types without arguments and their written forms. -/
def plainTypes : List (String × String) :=
  [("BOOLEAN", "BOOLEAN"), ("BOOL", "BOOL"), ("REAL", "REAL"), ("FLOAT4", "FLOAT4"),
    ("FLOAT64", "FLOAT64"), ("FLOAT8", "FLOAT8"), ("UUID", "UUID"), ("DATE", "DATE"),
    ("JSON", "JSON"), ("JSONB", "JSONB"), ("REGCLASS", "REGCLASS"), ("TEXT", "TEXT"),
    ("TINYTEXT", "TINYTEXT"), ("MEDIUMTEXT", "MEDIUMTEXT"), ("LONGTEXT", "LONGTEXT"),
    ("BYTEA", "BYTEA"), ("TINYBLOB", "TINYBLOB"), ("MEDIUMBLOB", "MEDIUMBLOB"),
    ("LONGBLOB", "LONGBLOB"), ("INT64", "INT64"), ("TRIGGER", "TRIGGER"),
    ("INTERVAL", "INTERVAL"), ("FLOAT32", "Float32"), ("INT16", "Int16"), ("INT32", "Int32"),
    ("INT128", "Int128"), ("INT256", "Int256"), ("UINT8", "UInt8"), ("UINT16", "UInt16"),
    ("UINT32", "UInt32"), ("UINT64", "UInt64"), ("UINT128", "UInt128"), ("UINT256", "UInt256"),
    ("DATE32", "Date32")]

/-- The known types with at most one whole number as argument. -/
def sizedTypes : List String :=
  ["FLOAT", "CLOB", "BINARY", "VARBINARY", "BLOB", "BYTES", "DATETIME", "STRING"]

/-- The known types of whole numbers, which may be unsigned. -/
def integerTypes : List String :=
  ["TINYINT", "INT2", "SMALLINT", "MEDIUMINT", "INT", "INT4", "INT8", "INTEGER", "BIGINT"]

/-- The known types of decimal numbers. -/
def decimalTypes : List String :=
  ["NUMERIC", "DECIMAL", "DEC", "BIGNUMERIC", "BIGDECIMAL"]

/-- The known types that begin with another type between parentheses, and their written forms. -/
def wrapperTypes : List (String × String) :=
  [("NULLABLE", "Nullable"), ("LOWCARDINALITY", "LowCardinality")]

def length : Reader String := do
  if ← keyword "MAX" then
    return "MAX"
  else
    let count ← wholeNumber
    match ← oneOf? ["CHARACTERS", "OCTETS"] with
    | some unit => return toString count ++ " " ++ unit
    | none => return toString count

/-- The length of a text between parentheses, if an opening one is next. -/
def optionalLength : Reader String := do
  if ← peekSymbol "(" then
    return parenthesized (← inParentheses length)
  else
    return ""

/-- A precision with an optional scale between parentheses, if an opening one is next. -/
def optionalScale : Reader String := do
  if ← symbol "(" then
    let digits ← wholeNumber
    if ← symbol "," then
      let scale ← wholeNumber
      expectSymbol ")"
      return parenthesized (toString digits ++ "," ++ toString scale)
    else
      expectSymbol ")"
      return parenthesized (toString digits)
  else
    return ""

/-- A type of characters that may be varying or a large object. -/
def characters (word : String) : Reader String := do
  if ← keyword "VARYING" then
    return word ++ " VARYING" ++ (← optionalLength)
  else if ← keywords ["LARGE", "OBJECT"] then
    return word ++ " LARGE OBJECT" ++ (← precision)
  else
    return word ++ (← optionalLength)

def timeZone : Reader String := do
  if ← keyword "WITH" then
    expectKeywords ["TIME", "ZONE"]
    return " WITH TIME ZONE"
  else if ← keyword "WITHOUT" then
    expectKeywords ["TIME", "ZONE"]
    return " WITHOUT TIME ZONE"
  else
    return ""

def preciseTime (dialect : Dialect) : Reader String := do
  let digits ← (do expectSymbol "("; wholeNumber)
  let zone ← textWhen (symbol ",") (do return ", '" ++ (← stringText dialect) ++ "'")
  expectSymbol ")"
  return "DateTime64" ++ parenthesized (toString digits ++ zone)

def member (dialect : Dialect) : Reader String := do
  let text := betweenQuotes '\x27' (← stringText dialect)
  let number ← textWhen (symbol "=") (do return " = " ++ (← signedNumeral))
  return text ++ number

def members (grammar : Grammar) (word : String) (reader : Reader String) : Reader String := do
  return word ++ parenthesized (commaSeparated (← inParentheses (grammar.list reader)))

/-- A word, number or string among the arguments of a type of its own. -/
def modifier? : Reader (Option String) := do
  match ← next with
  | .word text none => return some text
  | .word text (some quote) =>
    let closing := if quote = '[' then ']' else quote
    return some (String.ofList (quote :: (text.toList ++ [closing])))
  | .number numeral _ => return some numeral
  | .string .single text => return some text
  | .symbol "," => return none
  | _ => unexpected

/-- The arguments of a type of its own up to the closing parenthesis; commas count for nothing. -/
def modifiers : Nat → Reader (List String)
  | 0 => unexpected
  | fuel + 1 => do
    if ← symbol ")" then
      return []
    else
      let first? ← modifier?
      return first?.toList ++ (← modifiers fuel)

def customType (dialect : Dialect) : Reader TypeText := do
  let name ← qualifiedText dialect
  if ← symbol "(" then
    match ← modifiers ((← rest).length + 1) with
    | [] => return { text := name, custom := true }
    | arguments =>
      return { text := name ++ parenthesized (commaSeparated arguments), custom := true }
  else
    return { text := name, custom := true }

/-- The sign that closes a type inside another one, unless the inner type closed both. -/
def closeAngle (closed : Bool) : Reader Bool := do
  if closed then return false
  else if ← symbol ">" then return false
  else if ← symbol ">>" then return true
  else unexpected

/-- A field of a structure: a type, with a name before it where two words are next. -/
def structureField (inner : Reader TypeText) : Reader TypeText := do
  let isWord := fun token => match token with
    | Token.word _ _ => true
    | _ => false
  if (← nextIs isWord) && (← peekSecond?).any isWord then
    let field ← name
    let type ← inner
    return { type with text := field.write ++ " " ++ type.text }
  else
    inner

/-- The fields of a structure up to its closing sign. -/
def structureFields (inner : Reader TypeText) : Nat → Reader (List String × Bool)
  | 0 => unexpected
  | fuel + 1 => do
    let first ← structureField inner
    if ← onlyIf (!first.closesTwo) (symbol ",") then
      let (others, closesTwo) ← structureFields inner fuel
      return (first.text :: others, closesTwo)
    else
      return ([first.text], ← closeAngle first.closesTwo)

/-- A named type, as the fields of some structures are written. -/
def namedType (inner : Reader TypeText) : Reader String := do
  let field ← name
  return field.write ++ " " ++ (← inner).text

def compound? (grammar : Grammar) (inner : Reader TypeText) (word : String) :
    Reader (Option TypeText) := do
  match word with
  | "ARRAY" =>
    if grammar.dialect = .snowflake then
      skip 1
      return some { text := "ARRAY" }
    else if grammar.dialect = .clickhouse then
      skip 1
      return some { text := "Array" ++ parenthesized (← inParentheses inner).text }
    else
      skip 1
      expectSymbol "<"
      let element ← inner
      let closesTwo ← closeAngle element.closesTwo
      return some { text := "ARRAY<" ++ element.text ++ ">", closesTwo }
  | "STRUCT" =>
    if grammar.dialect = .duckdb then
      skip 1
      return some { text := ← members grammar "STRUCT" (namedType inner) }
    else if grammar.isAmong [.bigquery, .generic] then
      skip 1
      if ← symbol "<" then
        let (fields, closesTwo) ← structureFields inner ((← rest).length + 1)
        return some { text := "STRUCT<" ++ commaSeparated fields ++ ">", closesTwo }
      else
        return some { text := "STRUCT" }
    else
      return none
  | "UNION" =>
    if grammar.isAmong [.duckdb, .generic] then
      skip 1
      return some { text := ← members grammar "UNION" (namedType inner) }
    else
      return none
  | "MAP" =>
    if grammar.isAmong [.clickhouse, .generic] then
      skip 1
      expectSymbol "("
      let key ← inner
      expectSymbol ","
      let element ← inner
      expectSymbol ")"
      return some { text := "Map" ++ parenthesized (key.text ++ ", " ++ element.text) }
    else
      return none
  | "TUPLE" =>
    if grammar.isAmong [.clickhouse, .generic] then
      skip 1
      return some { text := ← members grammar "Tuple" (do return (← structureField inner).text) }
    else
      return none
  | "NESTED" =>
    if grammar.isAmong [.clickhouse, .generic] then
      skip 1
      return some { text := ← members grammar "Nested" (namedType inner) }
    else
      return none
  | _ =>
    match wrapperTypes.lookup word with
    | none => return none
    | some written =>
      if grammar.isAmong [.clickhouse, .generic] then
        skip 1
        return some { text := written ++ parenthesized (← inParentheses inner).text }
      else
        return none

/-- A known type that starts with a keyword and holds no other type. -/
def simple? (grammar : Grammar) (word : String) : Reader (Option String) := do
  if let some written := plainTypes.lookup word then
    skip 1
    return some written
  else if sizedTypes.contains word then
    skip 1
    return some (word ++ (← precision))
  else if integerTypes.contains word then
    skip 1
    let size ← precision
    return some (word ++ size ++ (← textWhen (keyword "UNSIGNED") (pure " UNSIGNED")))
  else if decimalTypes.contains word then
    skip 1
    return some (word ++ (← optionalScale))
  else
    match word with
    | "DOUBLE" =>
      skip 1
      return some ("DOUBLE" ++ (← textWhen (keyword "PRECISION") (pure " PRECISION")))
    | "VARCHAR" | "NVARCHAR" =>
      skip 1
      return some (word ++ (← optionalLength))
    | "CHARACTER" | "CHAR" =>
      skip 1
      return some (← characters word)
    | "BIT" =>
      skip 1
      let varying ← textWhen (keyword "VARYING") (pure " VARYING")
      return some ("BIT" ++ varying ++ (← precision))
    | "TIMESTAMP" | "TIME" =>
      skip 1
      let size ← precision
      return some (word ++ size ++ (← timeZone))
    | "TIMESTAMPTZ" | "TIMETZ" =>
      skip 1
      return some (word ++ (← precision))
    | "DATETIME64" =>
      skip 1
      return some (← preciseTime grammar.dialect)
    | "FIXEDSTRING" =>
      skip 1
      return some ("FixedString" ++ parenthesized (toString (← inParentheses wholeNumber)))
    | "ENUM" | "ENUM8" | "ENUM16" =>
      skip 1
      return some (← members grammar word (member grammar.dialect))
    | "SET" =>
      skip 1
      let quoted := do return betweenQuotes '\x27' (← singleQuoted)
      let choices ← inParentheses (separated false quoted)
      return some ("SET" ++ parenthesized (commaSeparated choices))
    | _ => return none

/-- A type before the brackets that make arrays of it. -/
def element (grammar : Grammar) (inner : Reader TypeText) : Reader TypeText := do
  match ← peek? with
  | some token =>
    match token.keyword? with
    | some word =>
      if let some text ← simple? grammar word then
        return { text }
      else if let some type ← compound? grammar inner word then
        return type
      else
        customType grammar.dialect
    | none =>
      match token with
      | .word _ _ => customType grammar.dialect
      | _ => unexpected
  | none => unexpected

/-- One pair of brackets, with the size of the array where the dialect allows it. -/
def brackets? (grammar : Grammar) (type : TypeText) : Reader (Option TypeText) := do
  if ← symbol "[" then
    let size? ←
      if grammar.isAmong [.generic, .duckdb, .postgresql] then attempt wholeNumber
      else pure none
    expectSymbol "]"
    return some { type with
      text := type.text ++ "[" ++ (size?.elim "" toString) ++ "]", custom := false }
  else
    return none

/-- A type nested at most `fuel` times. -/
def within (grammar : Grammar) : Nat → Reader TypeText
  | 0 => unexpected
  | fuel + 1 => do
    let type ← element grammar (within grammar fuel)
    iterate (brackets? grammar) type

end TypeText

namespace Grammar

open Reader

def type (grammar : Grammar) : Reader TypeText := do
  let type ← TypeText.within grammar ((← rest).length + 1)
  if type.closesTwo then unexpected else return type

def typeText (grammar : Grammar) : Reader String := do
  return (← grammar.type).text

end Grammar

end Sql

end OrmCode
