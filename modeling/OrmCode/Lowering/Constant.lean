import OrmCode.Lowering.Unsupported
import OrmCode.Sql.Tree
import OrmCode.Text.WholeNumber

/-!
# Constants and counts

A constant may stand between parentheses, and a number behind signs.  A count is
a number that is whole, not negative and fits into sixty-four bits.
-/

namespace OrmCode

namespace Lowering

def constant : Sql.Value → Except Unsupported Literal
  | .number numeral _ => .ok (.number numeral)
  | .string .single text => .ok (.string text)
  | .string .double text => .ok (.string text)
  | .boolean value => .ok (.boolean value)
  | .null => .ok .null
  | value => .error (.constant value.write)

/-- The numeral of the negative number, where two signs cancel each other. -/
def negated (numeral : String) : String :=
  match numeral.toList with
  | '-' :: magnitude => String.ofList magnitude
  | _ => "-" ++ numeral

def literal : Sql.Expr → Except Unsupported Literal
  | .value value => constant value
  | .minus operand => do
    match ← literal operand with
    | .number numeral => return .number (negated numeral)
    | _ => throw (.negatedText (Sql.Expr.minus operand).write)
  | .nested inner => literal inner
  | expression => .error (.notLiteral expression.write)

def count (expression : Sql.Expr) : Except Unsupported Nat := do
  match ← literal expression with
  | .number numeral =>
    match Text.count? numeral with
    | some value => return value
    | none => throw (.fraction numeral)
  | other => throw (.notCount other)

def count? : Option Sql.Expr → Except Unsupported (Option Nat)
  | none => .ok none
  | some expression => (count expression).map some

end Lowering

end OrmCode
