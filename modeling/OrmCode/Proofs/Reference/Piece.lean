import OrmCode.Proofs.Outcome
import OrmCode.Proofs.Statement.Filter
import OrmCode.Target
import OrmCode.Text.Identifier

/-!
# Names in generated code

Code is made of pieces: the name of the model, references to its fields, and text that
names neither of them.
-/

namespace OrmCode

namespace Target

/-- The name of the model that stands for a table. -/
def modelName : Target → String → String
  | sequelize => Text.javascriptIdentifier
  | sqlAlchemy => Text.pythonIdentifier

/-- The name of the field that stands for a column. -/
def fieldName : Target → String → String
  | sequelize => id
  | sqlAlchemy => Text.pythonIdentifier

/-- How the name of a field is written where it is no text. -/
def spelledField : Target → String → String
  | sequelize => Text.javascriptKey
  | sqlAlchemy => id

end Target

/-- A piece of code.  A field is referred to as an attribute, a keyword or a key, or by a text
that is its name. -/
inductive Piece
  | plain (text : String)
  | model
  | member (column : String)
  | memberText (column : String)
  deriving DecidableEq

namespace Piece

/-- The column that a piece refers to. -/
def column? : Piece → Option String
  | member column | memberText column => some column
  | plain _ | model => none

/-- The columns that pieces refer to, in order. -/
def columns (pieces : List Piece) : List String :=
  pieces.filterMap column?

/-- Items with a separator between them. -/
def separated (separator : String) (items : List (List Piece)) : List Piece :=
  [plain separator].intercalate items

/-- Items with commas between them. -/
def enclosed (opening : String) (items : List (List Piece)) (closing : String) : List Piece :=
  plain opening :: (separated ", " items ++ [plain closing])

section Code

variable (target : Target) (modelName : String)

def written : Piece → String
  | plain text => text
  | .model => modelName
  | member column => target.spelledField (target.fieldName column)
  | memberText column => Text.quoted (target.fieldName column)

/-- The code that pieces make up. -/
def code : List Piece → String
  | [] => ""
  | piece :: pieces => piece.written target modelName ++ code pieces

theorem code_append (first second : List Piece) :
    code target modelName (first ++ second) =
      code target modelName first ++ code target modelName second := by
  induction first with
  | nil => rw [List.nil_append, code, String.empty_append]
  | cons piece first induction => rw [List.cons_append, code, code, induction, String.append_assoc]

theorem code_singleton (piece : Piece) :
    code target modelName [piece] = piece.written target modelName :=
  String.append_empty

theorem code_separated (separator : String) (items : List (List Piece)) :
    code target modelName (separated separator items) =
      separator.intercalate (items.map (code target modelName)) := by
  induction items with
  | nil => rfl
  | cons first items induction =>
      cases items with
      | nil => simp [separated]
      | cons second items =>
          rw [separated, List.intercalate_cons_cons, code_append, code_append, ← separated,
            induction, List.map_cons, List.map_cons, List.map_cons, String.intercalate_cons_cons,
            code_singleton, written]

theorem code_enclosed (opening closing : String) (items : List (List Piece)) :
    code target modelName (enclosed opening items closing) =
      opening ++ ", ".intercalate (items.map (code target modelName)) ++ closing := by
  rw [enclosed, code, code_append, code_separated, code_singleton, String.append_assoc]
  rfl

end Code

theorem columns_append (first second : List Piece) :
    columns (first ++ second) = columns first ++ columns second :=
  List.filterMap_append

theorem columns_cons_plain (text : String) (pieces : List Piece) :
    columns (plain text :: pieces) = columns pieces := rfl

theorem columns_separated (separator : String) (items : List (List Piece)) :
    columns (separated separator items) = items.flatMap columns := by
  induction items with
  | nil => rfl
  | cons first items induction =>
      cases items with
      | nil => simp [separated]
      | cons second items =>
          rw [separated, List.intercalate_cons_cons, columns_append, columns_append, ← separated,
            induction, List.flatMap_cons]
          simp [columns, column?]

theorem columns_enclosed (opening closing : String) (items : List (List Piece)) :
    columns (enclosed opening items closing) = items.flatMap columns := by
  rw [enclosed, columns_cons_plain, columns_append, columns_separated]
  exact List.append_nil _

theorem mem_separated (separator : String) {items : List (List Piece)} {item : List Piece}
    (listed : item ∈ items) {piece : Piece} (member : piece ∈ item) :
    piece ∈ separated separator items := by
  induction items with
  | nil => cases listed
  | cons first items induction =>
      cases items with
      | nil =>
          obtain rfl := List.mem_singleton.mp listed
          rwa [separated, List.intercalate_singleton]
      | cons second items =>
          rw [separated, List.intercalate_cons_cons, ← separated, List.mem_append]
          rcases List.mem_cons.mp listed with rfl | later
          · exact .inl (List.mem_append_left _ member)
          · exact .inr (induction later)

theorem mem_enclosed (opening closing : String) {items : List (List Piece)} {item : List Piece}
    (listed : item ∈ items) {piece : Piece} (member : piece ∈ item) :
    piece ∈ enclosed opening items closing :=
  List.mem_cons_of_mem _ (List.mem_append_left _ (mem_separated ", " listed member))

end Piece

namespace Filter

/-- The columns that a filter compares, if there is one, from left to right. -/
def comparedColumns (given? : Option Filter) : List String :=
  given?.toList.flatMap fun filter => filter.leaves.map Comparison.column

/-- How the parts of a filter are made of pieces. -/
structure Marks where
  comparison : Comparison → List Piece
  combine : Connective → List (List Piece) → List Piece
  negate : List Piece → List Piece

namespace Marks

def group (marks : Marks) (connective : Connective) : List (List Piece) → List Piece
  | [only] => only
  | operands => marks.combine connective operands

/-- The pieces of a filter. -/
def pieces (marks : Marks) : Filter → List Piece
  | .comparison leaf => marks.comparison leaf
  | .group connective operands => marks.group connective (operands.map marks.pieces)
  | .negation operand => marks.negate (marks.pieces operand)

/-- Pieces that make up what a renderer renders, and refer to the compared columns alone. -/
structure Follow (marks : Marks) (target : Target) (modelName : String) {Failure : Type}
    (renderer : Renderer Failure) : Prop where
  comparison {leaf : Comparison} {text : String} (rendered : renderer.comparison leaf = .ok text) :
    Piece.code target modelName (marks.comparison leaf) = text
  combine (connective : Connective) (operands : List (List Piece)) :
    renderer.combine connective (operands.map (Piece.code target modelName)) =
      Piece.code target modelName (marks.combine connective operands)
  negate (negated : List Piece) :
    renderer.negate (Piece.code target modelName negated) =
      Piece.code target modelName (marks.negate negated)
  comparisonColumns (leaf : Comparison) : Piece.columns (marks.comparison leaf) = [leaf.column]
  combineColumns (connective : Connective) (operands : List (List Piece)) :
    Piece.columns (marks.combine connective operands) = operands.flatMap Piece.columns
  negateColumns (negated : List Piece) :
    Piece.columns (marks.negate negated) = Piece.columns negated

namespace Follow

variable {marks : Marks} {target : Target} {modelName : String} {Failure : Type}
  {renderer : Renderer Failure} (follow : marks.Follow target modelName renderer)

include follow

theorem group (connective : Connective) (operands : List (List Piece)) :
    renderer.group connective (operands.map (Piece.code target modelName)) =
      Piece.code target modelName (marks.group connective operands) := by
  match operands with
  | [] => exact follow.combine connective []
  | [only] => rfl
  | first :: second :: others => exact follow.combine connective (first :: second :: others)

theorem groupColumns (connective : Connective) (operands : List (List Piece)) :
    Piece.columns (marks.group connective operands) = operands.flatMap Piece.columns := by
  match operands with
  | [] => exact follow.combineColumns connective []
  | [only] => exact (List.flatMap_singleton _ _).symm
  | first :: second :: others => exact follow.combineColumns connective (first :: second :: others)

theorem render {filter : Filter} {text : String} (rendered : filter.render renderer = .ok text) :
    Piece.code target modelName (marks.pieces filter) = text := by
  induction filter generalizing text with
  | comparison leaf =>
      rw [pieces]
      exact follow.comparison rendered
  | group connective operands induction =>
      obtain ⟨texts, each, rfl⟩ := Outcome.map_eq_ok.mp rendered
      rw [renderAll_eq_mapM] at each
      obtain rfl := Outcome.eq_map_of_mapM each fun operand member text => induction operand member
      rw [pieces, ← follow.group, List.map_map]
      rfl
  | negation operand induction =>
      obtain ⟨negated, found, rfl⟩ := Outcome.map_eq_ok.mp rendered
      rw [pieces, ← follow.negate, induction found]

theorem columns_pieces (filter : Filter) :
    Piece.columns (marks.pieces filter) = filter.leaves.map Comparison.column := by
  induction filter with
  | comparison leaf =>
      rw [pieces]
      exact follow.comparisonColumns leaf
  | group connective operands induction =>
      rw [pieces, follow.groupColumns, List.flatMap_map, leaves_group,
        List.map_flatMap]
      exact List.flatMap_congr induction
  | negation operand induction => rw [pieces, follow.negateColumns, induction, leaves]

end Follow

end Marks

end Filter

end OrmCode
