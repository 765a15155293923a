import OrmCode.Sql.Grammar.Statement
import OrmCode.Sql.Scan

/-!
# Parsing SQL

The grammar is tied to itself level by level: each nested statement, query or
expression is read one level deeper, and below the last level nothing is read.
A text is a list of statements between semicolons.
-/

namespace OrmCode

namespace Sql

/-- How deeply statements, queries and expressions may be nested. -/
def greatestDepth : Nat := 50

/-- The grammar below the last level, where everything is too deep. -/
def bottom : Deeper where
  expression _ := throw .tooDeep
  operand := throw .tooDeep
  query := throw .tooDeep
  reference := throw .tooDeep
  statement := throw .tooDeep

/-- The grammar with `depth` levels left. -/
def level (dialect : Dialect) : Nat → Bool → Deeper
  | 0, _ => bottom
  | depth + 1, inColumn =>
    let grammar : Grammar := { dialect, inColumn, deeper := level dialect depth }
    { expression := grammar.readExpression
      operand := grammar.operand
      query := grammar.readQuery
      reference := grammar.readReference
      statement := grammar.readStatement }

def statement (dialect : Dialect) : Reader ParsedStatement :=
  (level dialect greatestDepth false).statement

/-- The statements that a text holds, if it can be read. -/
def parse? (dialect : Dialect) (text : String) : Option (List ParsedStatement) :=
  (scan dialect text).bind fun tokens =>
    match (Grammar.statements (statement dialect)).run tokens with
    | .ok (statements, _) => some statements
    | .error _ => none

end Sql

end OrmCode
