import OrmCode.Lowering.Unsupported
import OrmCode.Sql.Tree
import OrmCode.Text.LetterCase

/-!
# The scope of a statement

A statement reads or writes one table.  Its columns may be qualified by the name
or the alias of that table; any other qualifier names something else.
-/

namespace OrmCode

namespace Lowering

/-- The table of a statement with its alias. -/
structure Scope where
  table : String
  alias? : Option String := none
  deriving DecidableEq

def tableName (name : Sql.QualifiedName) : Except Unsupported String :=
  match name.getLast? with
  | some last => .ok last.text
  | none => .error (.clause .emptyTableName)

namespace Scope

/-- Whether a qualifier names the table or its alias, in any letter case. -/
def owns (scope : Scope) (qualifier : String) : Bool :=
  Text.sameIgnoringCase qualifier scope.table ||
    scope.alias?.any (Text.sameIgnoringCase qualifier)

/-- The column that a name with qualifiers stands for; only the last qualifier counts. -/
def resolve (scope : Scope) (name : Sql.QualifiedName) : Except Unsupported String :=
  match name.reverse with
  | [] => .error (.clause .emptyColumnName)
  | [column] => .ok column.text
  | column :: qualifier :: _ =>
    if scope.owns qualifier.text then .ok column.text
    else .error (.foreignColumn qualifier.text column.text scope.table)

def column (scope : Scope) : Sql.Expr → Except Unsupported String
  | .column name => scope.resolve name
  | expression => .error (.notColumn expression.write)

/-- The scope of a source of rows that is one table. -/
def ofReference (reference : Sql.TableReference) : Except Unsupported Scope := do
  refuseIf (!reference.joins.isEmpty) .join
  match reference.relation with
  | .named name _ alias? _ _ =>
    return { table := ← tableName name, alias? := alias?.map Sql.Name.text }
  | .other _ _ => throw (.clause .otherSource)

end Scope

end Lowering

end OrmCode
