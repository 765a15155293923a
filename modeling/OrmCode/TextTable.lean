import OrmCode.Code.TypeTables

/-!
# Tables as text

A table has a header and rows of cells, drawn with lines between them.  Each
column is as wide as its longest cell and one blank on either side.
-/

namespace OrmCode

/-- A table of cells; every row has as many cells as the header. -/
structure TextTable where
  header : List String
  rows : List (List String)

namespace TextTable

/-- The characters of a line across a table. -/
structure Rule where
  left : String
  line : Char
  crossing : String
  right : String

/-- The line over the header. -/
def topRule : Rule := ⟨"┌", '─', "┬", "┐"⟩

def headerRule : Rule := ⟨"╞", '═', "╪", "╡"⟩

def rowRule : Rule := ⟨"├", '╌', "┼", "┤"⟩

/-- The line under the last row. -/
def bottomRule : Rule := ⟨"└", '─', "┴", "┘"⟩

/-- A line across columns of the given widths. -/
def Rule.draw (rule : Rule) (widths : List Nat) : String :=
  rule.left ++
    rule.crossing.intercalate (widths.map fun width =>
      String.ofList (List.replicate (width + 2) rule.line)) ++ rule.right

def drawRow (widths : List Nat) (cells : List String) : String :=
  "│" ++ "┆".intercalate ((widths.zip cells).map fun (width, cell) =>
    " " ++ cell ++ String.ofList (List.replicate (width - cell.length) ' ') ++ " ") ++ "│"

/-- The widths of the columns of several rows. -/
def widths (rows : List (List String)) : List Nat :=
  rows.foldl (fun widest row => widest.zipWith max (row.map String.length))
    (rows.head?.elim [] fun row => row.map fun _ => 0)

def lines (table : TextTable) : List String :=
  let columns := widths (table.header :: table.rows)
  [topRule.draw columns, drawRow columns table.header, headerRule.draw columns] ++
    (table.rows.map (drawRow columns)).intersperse (rowRule.draw columns) ++
    [bottomRule.draw columns]

/-- The text of a table, without an ending after its last line. -/
def text (table : TextTable) : String :=
  "\n".intercalate table.lines

end TextTable

namespace Target

/-- The name of a type with a sign for the lengths it takes over. -/
def shownType (type : TargetType) : String :=
  if type.sized then type.name ++ "(n)" else type.name

/-- The table of the column types of a target, the one for all others last. -/
def typeListing (target : Target) : TextTable where
  header := ["SQL type", target.name ++ " type"]
  rows := (target.types.entries.map fun (name, type) => [name, shownType type]) ++
    [["(other)", target.types.fallback.name]]

def listing : TextTable where
  header := ["Target", "Language", "Types"]
  rows := all.map fun target =>
    [target.name, target.language, toString target.types.entries.length]

end Target

end OrmCode
