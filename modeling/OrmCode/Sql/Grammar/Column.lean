import OrmCode.Sql.Grammar.Query

/-!
# Columns and constraints of tables

The options of a column are looked for in a fixed order, again and again.  Some
dialects take a word that means nothing to them and go on with the next form.
-/

namespace OrmCode

namespace Sql

namespace Grammar

open Reader

def ofColumn (grammar : Grammar) : Grammar :=
  { grammar with inColumn := true }

/-- What becomes of rows when those that they refer to change. -/
def referentialAction : Reader Unit := do
  if ← keyword "RESTRICT" then return
  else if ← keyword "CASCADE" then return
  else if ← keywords ["SET", "NULL"] then return
  else if ← keywords ["NO", "ACTION"] then return
  else expectKeywords ["SET", "DEFAULT"]

/-- One of the two referential actions, each of which may be given once. -/
def referentialAction? (given : Bool × Bool) : Reader (Option (Bool × Bool)) := do
  if ← onlyIf (!given.1) (keywords ["ON", "DELETE"]) then
    referentialAction
    return some (true, given.2)
  else if ← onlyIf (!given.2) (keywords ["ON", "UPDATE"]) then
    referentialAction
    return some (given.1, true)
  else
    return none

/-- Which of the characteristics of a constraint have been given. -/
structure Characteristics where
  deferrable : Bool := false
  initially : Bool := false
  enforced : Bool := false

/-- One of the characteristics of a constraint, each of which may be given once. -/
def characteristic? (given : Characteristics) : Reader (Option Characteristics) := do
  if ← onlyIf (!given.deferrable) (keywords ["NOT", "DEFERRABLE"]) then
    return some { given with deferrable := true }
  else if ← onlyIf (!given.deferrable) (keyword "DEFERRABLE") then
    return some { given with deferrable := true }
  else if ← onlyIf (!given.initially) (keyword "INITIALLY") then
    let _ ← expectOneOf ["DEFERRED", "IMMEDIATE"]
    return some { given with initially := true }
  else if ← onlyIf (!given.enforced) (keyword "ENFORCED") then
    return some { given with enforced := true }
  else if ← onlyIf (!given.enforced) (keywords ["NOT", "ENFORCED"]) then
    return some { given with enforced := true }
  else
    return none

def characteristics : Reader Unit := do
  let _ ← iterate characteristic? {}

/-- The table that a constraint refers to, with what becomes of the referring rows. -/
def references (grammar : Grammar) (columnsNeeded : Bool) : Reader Unit := do
  let _ ← qualifiedName grammar.dialect
  let _ ← if columnsNeeded then nameList grammar false else optionalNameList grammar false
  let _ ← iterate referentialAction? (false, false)
  characteristics

/-- A number with the word before it, or the words that say that there is none. -/
def bound (word : String) : Reader Unit := do
  if ← keyword word then
    let _ ← signedNumeral
  else
    let _ ← keywords ["NO", word]

/-- A number after a keyword, between which another word may stand. -/
def numberAfter (word optional : String) : Reader Unit := do
  if ← keyword word then
    let _ ← keyword optional
    let _ ← signedNumeral

/-- The options of a sequence of numbers in their fixed order. -/
def sequenceOptions : Reader Unit := do
  numberAfter "INCREMENT" "BY"
  bound "MINVALUE"
  bound "MAXVALUE"
  numberAfter "START" "WITH"
  if ← keyword "CACHE" then
    let _ ← signedNumeral
  unless ← keywords ["NO", "CYCLE"] do
    let _ ← keyword "CYCLE"

/-- A column whose values are generated, if a known form follows. -/
def generated? (grammar : Grammar) : Reader (Option ColumnOption) := do
  if (← keywords ["ALWAYS", "AS", "IDENTITY"]) then
    identity
  else if ← keywords ["BY", "DEFAULT", "AS", "IDENTITY"] then
    identity
  else if ← keywords ["ALWAYS", "AS"] then
    if ← symbol "(" then
      let expression ← grammar.expression
      expectSymbol ")"
      if ← keyword "STORED" then return some (.generated expression)
      else if grammar.dialect = .postgresql then unexpected
      else
        let _ ← keyword "VIRTUAL"
        return some (.generated expression)
    else return none
  else return none
where
  /-- The options of an identity. -/
  identity : Reader (Option ColumnOption) := do
    if ← symbol "(" then
      sequenceOptions
      expectSymbol ")"
    return some (.generated none)

/-- The start and step of an identity between parentheses, if an opening one is next. -/
def identityNumbers : Reader Bool := do
  if ← symbol "(" then
    let _ ← signedNumeral
    expectSymbol ","
    let _ ← signedNumeral
    expectSymbol ")"
    return true
  else
    return false

/-- An identity of a column in the dialect that has an order for it. -/
def orderedIdentity : Reader ColumnOption := do
  unless ← identityNumbers do
    if ← keyword "START" then
      let _ ← signedNumeral
      expectKeyword "INCREMENT"
      let _ ← signedNumeral
  let _ ← oneOf? ["ORDER", "NOORDER"]
  return .other

/-- An option that a reader finds once some words are taken, where the dialect has it. -/
def optionWhen (words : Reader Bool) (allowed : Bool) (reader : Reader ColumnOption) :
    Reader (Option ColumnOption) := do
  if ← words then
    if allowed then return some (← reader) else return none
  else
    return none

/-- An option that only words make up. -/
def plainOption (words : List String) (option : ColumnOption) : Reader (Option ColumnOption) :=
  optionWhen (keywords words) true (pure option)

/-- An option of one word that only some dialects have, which it is written with. -/
def wordOption (word : String) (allowed : Bool) : Reader (Option ColumnOption) :=
  optionWhen (keyword word) allowed (pure (.dialectSpecific [.word word none]))

def setting (grammar : Grammar) : Reader Unit := do
  unless ← onlyIf (grammar.isAmong [.mssql, .generic]) (keyword "HEAP") do
    let _ ← name
    expectSymbol "="
    let _ ← grammar.expression

/-- Settings of a table or column between parentheses, after a keyword. -/
def settings (grammar : Grammar) (word : String) : Reader Bool := do
  if ← keyword word then
    expectSymbol "("
    let _ ← grammar.listBefore ")" grammar.setting
    expectSymbol ")"
    return true
  else
    return false

/-- A value computed from other columns, after AS. -/
def computed (grammar : Grammar) : Reader ColumnOption := do
  let expression ← inParentheses grammar.expression
  let _ ← oneOf? ["STORED", "VIRTUAL"]
  return .generated expression

/-- The forms of the options of a column in the order in which they are looked for. -/
def columnOptions (grammar : Grammar) : List (Reader (Option ColumnOption)) :=
  let everywhere := true
  let numbers := grammar.isAmong [.mysql, .generic]
  [optionWhen (onlyIf (grammar.dialect = .snowflake)
      (do return (← oneOf? ["IDENTITY", "AUTOINCREMENT"]).isSome)) everywhere orderedIdentity,
    optionWhen (keywords ["CHARACTER", "SET"]) everywhere
      (do let _ ← qualifiedName grammar.dialect; return .other),
    plainOption ["NOT", "NULL"] .notNull,
    optionWhen (keyword "COMMENT") everywhere (do let _ ← singleQuoted; return .other),
    plainOption ["NULL"] .null,
    optionWhen (keyword "DEFAULT") everywhere (do return .default (← grammar.expression)),
    optionWhen (onlyIf (grammar.isAmong [.clickhouse, .generic]) (keyword "MATERIALIZED"))
      everywhere (do let _ ← grammar.expression; return .other),
    optionWhen (onlyIf (grammar.isAmong [.clickhouse, .generic]) (keyword "ALIAS"))
      everywhere (do let _ ← grammar.expression; return .other),
    optionWhen (onlyIf (grammar.isAmong [.clickhouse, .generic]) (keyword "EPHEMERAL"))
      everywhere (do
        unless ← nextIs fun token => token.isSymbol "," || token.isSymbol ")" do
          let _ ← grammar.expression
        return .other),
    optionWhen (keywords ["PRIMARY", "KEY"]) everywhere
      (do characteristics; return .unique true),
    optionWhen (keyword "UNIQUE") everywhere (do characteristics; return .unique false),
    optionWhen (keyword "REFERENCES") everywhere
      (do grammar.references false; return .other),
    optionWhen (keyword "CHECK") everywhere
      (do let _ ← inParentheses grammar.expression; return .other),
    wordOption "AUTO_INCREMENT" numbers,
    wordOption "AUTOINCREMENT" (grammar.isAmong [.sqlite, .generic]),
    wordOption "ASC" (grammar.isAmong [.sqlite, .generic]),
    wordOption "DESC" (grammar.isAmong [.sqlite, .generic]),
    optionWhen (keywords ["ON", "UPDATE"]) numbers
      (do let _ ← grammar.expression; return .other),
    (do if ← keyword "GENERATED" then grammar.generated? else return none),
    optionWhen (onlyIf (grammar.isAmong [.bigquery, .generic]) (peekKeyword "OPTIONS")) everywhere
      (do let _ ← grammar.settings "OPTIONS"; return .other),
    optionWhen (keyword "AS") (grammar.isAmong [.mysql, .sqlite, .duckdb, .generic])
      grammar.computed,
    optionWhen (keyword "IDENTITY") (grammar.isAmong [.mssql, .generic])
      (do let _ ← identityNumbers; return .other),
    optionWhen (onlyIf (grammar.isAmong [.sqlite, .generic]) (keywords ["ON", "CONFLICT"]))
      everywhere
      (do let _ ← expectOneOf ["ROLLBACK", "ABORT", "FAIL", "IGNORE", "REPLACE"]; return .other)]

/-- One more option of a column, if one follows. -/
def columnOption? (grammar : Grammar) : Reader (Option ColumnOption) := do
  if ← keyword "CONSTRAINT" then
    let _ ← name
    match ← firstOf? grammar.ofColumn.columnOptions with
    | some option => return some option
    | none => unexpected
  else
    match ← firstOf? grammar.ofColumn.columnOptions with
    | some option => return some option
    | none =>
      if ← onlyIf (grammar.isAmong [.mysql, .snowflake, .generic]) (keyword "COLLATE") then
        let _ ← qualifiedName grammar.dialect
        return some .other
      else
        return none

/-- Whether a column has no type, as one dialect allows. -/
def untyped (grammar : Grammar) : Reader Bool := do
  if grammar.dialect = .sqlite then
    match ← peek? with
    | some (.word text quote?) =>
      return ["CONSTRAINT", "PRIMARY", "NOT", "UNIQUE", "CHECK", "DEFAULT", "COLLATE",
        "REFERENCES", "GENERATED", "AS"].any fun word => (Token.word text quote?).isKeyword word
    | _ => return true
  else
    return false

def columnDefinition (grammar : Grammar) : Reader ColumnDefinition := do
  let column ← name
  let type ← if ← grammar.untyped then pure "" else grammar.typeText
  if ← keyword "COLLATE" then
    let _ ← qualifiedName grammar.dialect
  return { name := column, type, options := ← many grammar.columnOption? }

def indexKind : Reader Unit := do
  let _ ← expectOneOf ["BTREE", "HASH"]

/-- The columns of a key with the name and kind of its index before them. -/
def keyColumns (grammar : Grammar) : Reader (List Name) := do
  let _ ← attempt name
  if ← keyword "USING" then indexKind
  nameList grammar false

/-- One more option of an index, if one follows. -/
def indexOption? : Reader (Option Unit) := do
  if ← keyword "USING" then
    indexKind
    return some ()
  else if ← keyword "COMMENT" then
    let _ ← singleQuoted
    return some ()
  else
    return none

/-- A key of a table with all that may follow its columns. -/
def key (grammar : Grammar) : Reader (List Name) := do
  let columns ← grammar.keyColumns
  let _ ← many indexOption?
  characteristics
  return columns

/-- Values that differ, after UNIQUE. -/
def uniqueKey (grammar : Grammar) : Reader TableConstraint := do
  if (← oneOf? ["KEY", "INDEX"]).isSome && !grammar.isAmong [.mysql, .generic] then unexpected
  if ← keyword "NULLS" then
    let _ ← keyword "NOT"
    expectKeyword "DISTINCT"
  let _ ← grammar.key
  return .other

def index (grammar : Grammar) : Reader TableConstraint := do
  unless ← peekKeyword "USING" do
    let _ ← attempt name
  if ← keyword "USING" then indexKind
  let _ ← nameList grammar false
  return .other

/-- An index of words or places among the columns of a table. -/
def specialIndex (grammar : Grammar) : Reader TableConstraint := do
  let _ ← oneOf? ["KEY", "INDEX"]
  let _ ← attempt name
  let _ ← nameList grammar false
  return .other

def tableConstraint? (grammar : Grammar) : Reader (Option TableConstraint) := do
  let named ← keyword "CONSTRAINT"
  if named then
    let _ ← name
  let indexed := grammar.isAmong [.mysql, .generic] && !named
  if ← keyword "UNIQUE" then
    return some (← grammar.uniqueKey)
  else if ← keyword "PRIMARY" then
    expectKeyword "KEY"
    return some (.primaryKey (← grammar.key))
  else if ← keyword "FOREIGN" then
    expectKeyword "KEY"
    let _ ← nameList grammar false
    expectKeyword "REFERENCES"
    grammar.references true
    return some .other
  else if ← keyword "CHECK" then
    let _ ← inParentheses grammar.expression
    return some .other
  else if (← onlyIf indexed (do return (← oneOf? ["INDEX", "KEY"]).isSome)) then
    return some (← grammar.index)
  else if (← onlyIf indexed (do return (← oneOf? ["FULLTEXT", "SPATIAL"]).isSome)) then
    return some (← grammar.specialIndex)
  else if named then
    unexpected
  else
    return none

def wordNext : Reader Bool :=
  nextIs fun token => match token with
    | .word _ _ => true
    | _ => false

/-- The columns and constraints of a table up to the closing parenthesis. -/
def columnsWithin (grammar : Grammar) :
    Nat → Reader (List ColumnDefinition × List TableConstraint)
  | 0 => unexpected
  | fuel + 1 => do
    let (columns, constraints) ← match ← grammar.tableConstraint? with
      | some constraint => pure ([], [constraint])
      | none =>
        if ← wordNext then pure ([← grammar.columnDefinition], []) else unexpected
    if ← symbol "," then
      if ← onlyIf grammar.dialect.trailingCommas (symbol ")") then
        return (columns, constraints)
      else
        let (otherColumns, otherConstraints) ← columnsWithin grammar fuel
        return (columns ++ otherColumns, constraints ++ otherConstraints)
    else
      expectSymbol ")"
      return (columns, constraints)

/-- The columns and constraints of a table, which may be missing. -/
def columns (grammar : Grammar) : Reader (List ColumnDefinition × List TableConstraint) := do
  if ← symbol "(" then
    if ← symbol ")" then return ([], [])
    else grammar.columnsWithin ((← rest).length + 1)
  else
    return ([], [])

end Grammar

end Sql

end OrmCode
