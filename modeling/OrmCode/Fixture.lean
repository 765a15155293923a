/-!
# Statements as text

The text of simple statements, made of names and values that are already SQL.
-/

namespace OrmCode

/-- A column of a table that is to be created. -/
structure ColumnSpec where
  name : String
  sqlType : String
  primaryKey : Bool := false
  notNull : Bool := false
  deriving DecidableEq

namespace ColumnSpec

def sql (column : ColumnSpec) : String :=
  column.name ++ " " ++ column.sqlType ++ (if column.notNull then " NOT NULL" else "") ++
    (if column.primaryKey then " PRIMARY KEY" else "")

end ColumnSpec

def createTableSql (table : String) (columns : List ColumnSpec) : String :=
  "CREATE TABLE " ++ table ++ " (" ++ ", ".intercalate (columns.map ColumnSpec.sql) ++ ")"

/-- The statement that inserts one row of values. -/
def insertSql (table : String) (columns values : List String) : String :=
  "INSERT INTO " ++ table ++ " (" ++ ", ".intercalate columns ++ ") VALUES (" ++
    ", ".intercalate values ++ ")"

end OrmCode
