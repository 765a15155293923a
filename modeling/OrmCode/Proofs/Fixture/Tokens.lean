import Mathlib.Data.List.Forall2
import OrmCode.Fixture
import OrmCode.Proofs.Outcome
import OrmCode.Proofs.Scan.Plain
import OrmCode.Proofs.Text.Lettered

/-!
# Tokens of generated statements

The text of a simple statement is words, parentheses and commas with single blanks
between them, and is read off as such in every dialect.
-/

namespace OrmCode

open Sql

variable {dialect : Dialect}

theorem isWord_of_isLettered {initial : Char} {name : String}
    (lettered : Text.isLettered initial name = true) (small : initial.isLower = true) :
    isWord name = true := by
  have continues := Text.continues_of_isLettered lettered small
  obtain ⟨letter, letters, found, -⟩ := Text.exists_letters lettered
  rw [found] at continues
  rw [isWord, found]
  simp only [Text.isAlpha_of_isLower small, Bool.true_and, List.all_eq_true]
  exact fun character member => continues character (List.mem_cons_of_mem _ member)

namespace ColumnSpec

/-- The types that the columns of generated tables have. -/
def usualTypes : List String :=
  ["INT", "BIGINT", "TEXT", "BOOLEAN", "VARCHAR(32)", "DATE"]

/-- The word that one of the usual types starts with. -/
def typeWord : String → String
  | "VARCHAR(32)" => "VARCHAR"
  | type => type

/-- The tokens behind the word that one of the usual types starts with. -/
def lengthTokens : String → List Token
  | "VARCHAR(32)" => [.symbol "(", .number "32" false, .symbol ")"]
  | _ => []

def typeTokens (type : String) : List Token :=
  .word (typeWord type) none :: lengthTokens type

def optionTokens (column : ColumnSpec) : List Token :=
  (if column.notNull then [.word "NOT" none, .word "NULL" none] else []) ++
    (if column.primaryKey then [.word "PRIMARY" none, .word "KEY" none] else [])

def tokens (column : ColumnSpec) : List Token :=
  .word column.name none :: (typeTokens column.sqlType ++ column.optionTokens)

end ColumnSpec

/-- Items between commas and parentheses. -/
def listTokens (items : List (List Token)) : List Token :=
  .symbol "(" :: ([Token.symbol ","].intercalate items ++ [.symbol ")"])

def createTableTokens (table : String) (columns : List ColumnSpec) : List Token :=
  [.word "CREATE" none, .word "TABLE" none, .word table none] ++
    listTokens (columns.map ColumnSpec.tokens)

theorem spells_words {text following : String} {tokens : List Token}
    (spelled : Spells dialect text tokens) (word : isWord following = true) :
    Spells dialect (text ++ " " ++ following) (tokens ++ [.word following none]) := by
  have together := (spelled.delimited delimits_blank).append_spells (Spells.word word)
  rwa [List.append_nil] at together

/-- An option of two words that stands behind a text exactly if it is given. -/
theorem spells_option {text option first second : String} {tokens : List Token}
    (written : option = " " ++ first ++ " " ++ second) (spelled : Spells dialect text tokens)
    (word : isWord first = true) (wordToo : isWord second = true) (given : Bool) :
    Spells dialect (text ++ (if given then option else ""))
      (tokens ++ (if given then [.word first none, .word second none] else [])) := by
  cases given with
  | false => simpa using spelled
  | true =>
      have together := spells_words (spells_words spelled word) wordToo
      rw [List.append_assoc, List.singleton_append] at together
      simpa only [written, if_true, String.append_assoc] using together

theorem closed_list {texts : List String} {items : List (List Token)}
    (each : List.Forall₂ (Spells dialect) texts items) :
    Closed dialect ("(" ++ ", ".intercalate texts ++ ")") (listTokens items) := by
  have delimits : Delimits dialect ")" [.symbol ")"] := ⟨⟨')', [], rfl, by decide⟩, .closing⟩
  have together := Closed.opening.append
    ((Spells.intercalate delimits_comma each).delimited delimits)
  rwa [← String.append_assoc] at together

theorem spells_type {type : String} (usual : type ∈ ColumnSpec.usualTypes) :
    Spells dialect type (ColumnSpec.typeTokens type) := by
  simp only [ColumnSpec.usualTypes, List.mem_cons, List.not_mem_nil, or_false] at usual
  rcases usual with rfl | rfl | rfl | rfl | rfl | rfl
  case inr.inr.inr.inr.inl =>
    have number : Spells dialect "32" [.number "32" false] := Spells.digits (by decide)
    have name : Spells dialect "VARCHAR" [.word "VARCHAR" none] := Spells.word (by decide)
    have opening : Delimits dialect "(" [.symbol "("] := ⟨⟨'(', [], rfl, by decide⟩, .opening⟩
    have closing : Delimits dialect ")" [.symbol ")"] := ⟨⟨')', [], rfl, by decide⟩, .closing⟩
    exact ((name.delimited opening).append (number.delimited closing)).spells
  all_goals exact Spells.word (by decide)

theorem spells_column {column : ColumnSpec} (word : isWord column.name = true)
    (usual : column.sqlType ∈ ColumnSpec.usualTypes) :
    Spells dialect column.sql column.tokens := by
  have typed : Spells dialect (column.name ++ " " ++ column.sqlType) _ :=
    ((Spells.word word).delimited delimits_blank).append_spells (spells_type usual)
  have notNull := spells_option (by decide : " NOT NULL" = " " ++ "NOT" ++ " " ++ "NULL") typed
    (by decide) (by decide) column.notNull
  have primaryKey := spells_option
    (by decide : " PRIMARY KEY" = " " ++ "PRIMARY" ++ " " ++ "KEY") notNull (by decide) (by decide)
    column.primaryKey
  simp only [List.append_nil, List.append_assoc, List.cons_append, List.nil_append] at primaryKey
  exact primaryKey

theorem scan_createTableSql {table : String} {columns : List ColumnSpec}
    (word : isWord table = true)
    (each : ∀ column ∈ columns, isWord column.name = true ∧
      column.sqlType ∈ ColumnSpec.usualTypes) :
    scan dialect (createTableSql table columns) = some (createTableTokens table columns) := by
  have create : Spells dialect "CREATE" [.word "CREATE" none] := Spells.word (by decide)
  have lead :=
    (spells_words (spells_words create (by decide : isWord "TABLE" = true)) word).delimited
    delimits_blank
  have items : List.Forall₂ (Spells dialect) (columns.map ColumnSpec.sql)
      (columns.map ColumnSpec.tokens) :=
    Outcome.forall₂_maps fun column member =>
      spells_column (each column member).1 (each column member).2
  have together := lead.append (closed_list items)
  have opening : " (" = " " ++ "(" := rfl
  have words : "CREATE TABLE " = "CREATE" ++ " " ++ "TABLE" ++ " " := by decide
  unfold createTableSql
  rw [words, opening]
  simp only [String.append_assoc] at together ⊢
  exact scan_of_closed together

/-- A value of a generated insertion: a whole number, a text without escapes, TRUE or NULL. -/
inductive PlainValue
  | whole (digits : String) (valid : ColumnType.isDigits digits = true)
  | text (content : String) (valid : Text.isUnescaped content = true)
  | truth
  | null

namespace PlainValue

def sql : PlainValue → String
  | whole digits _ => digits
  | text content _ => "'" ++ content ++ "'"
  | truth => "TRUE"
  | null => "NULL"

def token : PlainValue → Token
  | whole digits _ => .number digits false
  | text content _ => .string .single content
  | truth => .word "TRUE" none
  | null => .word "NULL" none

end PlainValue

def nameTokens (columns : List String) : List Token :=
  listTokens (columns.map fun column => [.word column none])

def rowTokens (values : List PlainValue) : List Token :=
  .word "VALUES" none :: listTokens (values.map fun value => [value.token])

def insertTokens (table : String) (columns : List String) (values : List PlainValue) :
    List Token :=
  [.word "INSERT" none, .word "INTO" none, .word table none] ++
    (nameTokens columns ++ rowTokens values)

theorem PlainValue.spells (value : PlainValue) : Spells dialect value.sql [value.token] := by
  cases value with
  | whole digits valid => exact Spells.digits valid
  | text content valid => exact Spells.quoted valid
  | truth => exact Spells.word (by decide)
  | null => exact Spells.word (by decide)

theorem scan_insertSql {table : String} {columns : List String} (values : List PlainValue)
    (word : isWord table = true) (words : ∀ column ∈ columns, isWord column = true) :
    scan dialect (insertSql table columns (values.map PlainValue.sql)) =
      some (insertTokens table columns values) := by
  have insert : Spells dialect "INSERT" [.word "INSERT" none] := Spells.word (by decide)
  have lead :=
    (spells_words (spells_words insert (by decide : isWord "INTO" = true)) word).delimited
    delimits_blank
  have names : List.Forall₂ (Spells dialect) columns
      (columns.map fun column => [Token.word column none]) := by
    rw [List.forall₂_map_right_iff, List.forall₂_same]
    exact fun column member => Spells.word (words column member)
  have spelled : List.Forall₂ (Spells dialect) (values.map PlainValue.sql)
      (values.map fun value => [value.token]) :=
    Outcome.forall₂_maps fun value _ => value.spells
  have keyword : Spells dialect "VALUES" [.word "VALUES" none] := Spells.word (by decide)
  have row := (Closed.blank.append (keyword.delimited delimits_blank)).append (closed_list spelled)
  have together := lead.append ((closed_list names).append row)
  have first : "INSERT INTO " = "INSERT" ++ " " ++ "INTO" ++ " " := by decide
  have opening : " (" = " " ++ "(" := rfl
  have second : ") VALUES (" = ")" ++ " " ++ "VALUES" ++ " " ++ "(" := by decide
  unfold insertSql
  rw [first, opening, second]
  simp only [String.append_assoc] at together ⊢
  exact scan_of_closed together

end OrmCode
