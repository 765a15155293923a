import OrmCode.Proofs.Fixture.Tokens
import OrmCode.Proofs.Grammar.Reader

/-!
# Reading insertions

The tokens of a generated insertion are read as one row of constants for the listed
columns.  No name with an underscore is a word that may stand where a name does.
-/

namespace OrmCode

open Sql

/-- The constant that the token of a value is read as. -/
def PlainValue.constant : PlainValue → Value
  | whole digits _ => .number digits false
  | text content _ => .string .single content
  | truth => .boolean true
  | null => .null

namespace Sql

set_option maxRecDepth 4000 in
theorem reads_value (depth : Nat) (value : PlainValue) :
    ReadsItem (plainGrammar (depth + 1)).expression [value.token] (.value value.constant) := by
  intro next ends rest
  simp only [List.mem_cons, List.not_mem_nil, or_false] at ends
  cases value <;> rcases ends with rfl | rfl <;> rfl

theorem reads_name (column : String) :
    ReadsItem Reader.name [.word column none] ⟨column, none⟩ := fun _ _ _ => rfl

/-- No list of one or more items closes at once. -/
theorem reads_noClosing {Item : Type} {items : List Item} (something : items ≠ [])
    {token : Item → Token} (apart : ∀ item, (token item).isSymbol ")" = false)
    (rest : List Token) :
    Reads (Reader.symbol ")")
      ([Token.symbol ","].intercalate (items.map fun item => [token item]) ++ rest) false
      ([Token.symbol ","].intercalate (items.map fun item => [token item]) ++ rest) := by
  obtain ⟨first, others, rfl⟩ := List.exists_cons_of_ne_nil something
  cases others with
  | nil => exact Reads.symbol_of_ne (apart first) _
  | cons second others => exact Reads.symbol_of_ne (apart first) _

theorem listTokens_append (items : List (List Token)) (rest : List Token) :
    listTokens items ++ rest =
      .symbol "(" :: ([Token.symbol ","].intercalate items ++ .symbol ")" :: rest) := by
  rw [listTokens, List.cons_append, List.append_assoc, List.singleton_append]

theorem reads_optionalNameList (depth : Nat) {columns : List String} (something : columns ≠ [])
    (rest : List Token) :
    Reads (Reader.optionalNameList (plainGrammar depth) true)
      (listTokens (columns.map fun column => [.word column none]) ++ rest)
      (columns.map fun column => ⟨column, none⟩) rest := by
  have each : List.Forall₂ (ReadsItem Reader.name) (columns.map fun column => [.word column none])
      (columns.map fun column => ⟨column, none⟩) :=
    Outcome.forall₂_maps fun column _ => reads_name column
  have listed := reads_separated (by simpa using something) each rest
  have notEmpty : Reads (Reader.onlyIf true (Reader.symbol ")")) _ false _ :=
    reads_noClosing something (fun column => (rfl : (Token.word column none).isSymbol ")" = false))
      (.symbol ")" :: rest)
  have names : Reads (Reader.nameList (plainGrammar depth) true) _ _ rest :=
    (Reads.expectSymbol "(" _).bind (notEmpty.bind (Reads.bind listed
      ((Reads.expectSymbol ")" rest).bind (Reads.pure _ rest))))
  have opened : ∀ rest, Reads (Reader.peekSymbol "(") (.symbol "(" :: rest) true
      (.symbol "(" :: rest) := fun rest => rfl
  rw [listTokens_append]
  exact (opened _).bind names

/-- One row of constants is all that is read of the rows. -/
theorem reads_rowsOfValues (depth : Nat) {values : List PlainValue} (something : values ≠ []) :
    Reads ((plainGrammar (depth + 1)).rowsOfValues true)
      (listTokens (values.map fun value => [value.token]))
      (false, [values.map fun value => .value value.constant]) [] := by
  have each : List.Forall₂ (ReadsItem (plainGrammar (depth + 1)).expression)
      (values.map fun value => [value.token]) (values.map fun value => .value value.constant) :=
    Outcome.forall₂_maps fun value _ => reads_value depth value
  have listed := reads_separated (by simpa using something) each []
  have apart : ∀ value : PlainValue, value.token.isSymbol ")" = false := by
    intro value
    cases value <;> rfl
  have notEmpty : Reads (Reader.onlyIf true (Reader.symbol ")")) _ false _ :=
    reads_noClosing something apart [.symbol ")"]
  have noRow := Reads.keyword_of_ne (by decide : (Token.symbol "(").isKeyword "ROW" = false)
    ([Token.symbol ","].intercalate (values.map fun value => [value.token]) ++ [.symbol ")"])
  have only : ∀ reader : Reader (Bool × List Expr),
      Reads reader _ (false, values.map fun value => .value value.constant) [] →
        Reads (Reader.separated false reader)
          (listTokens (values.map fun value => [value.token])) [(false, _)] [] :=
    fun reader row => reads_separated_only row false
  refine (only _ ?_).bind rfl
  refine noRow.bind ((Reads.expectSymbol "(" _).bind (notEmpty.bind (Reads.bind listed ?_)))
  exact (Reads.expectSymbol ")" []).bind (Reads.pure _ [])

/-- The rows that a generated insertion takes its values from. -/
def insertedRow (values : List PlainValue) : Query where
  body := .values false [values.map fun value => .value value.constant]

theorem reads_query (depth : Nat) {values : List PlainValue} (something : values ≠ []) :
    Reads (plainGrammar (depth + 2)).query
      (rowTokens values) (insertedRow values) [] := by
  have rows := reads_rowsOfValues depth something
  have notSelect : ∀ rest, Reads (Reader.peekKeyword "SELECT") (.word "VALUES" none :: rest) false
      (.word "VALUES" none :: rest) := fun rest => rfl
  have isValues : ∀ rest, Reads (Reader.keyword "VALUES") (.word "VALUES" none :: rest) true rest :=
    fun rest => rfl
  have body : Reads (plainGrammar (depth + 1)).simpleBody
      (rowTokens values) (insertedRow values).body [] := by
    refine (notSelect _).bind (Reads.bind (Reads.symbol_of_ne (by decide) _) ?_)
    refine (isValues _).bind (rows.bind ?_)
    rfl
  have bodies : ∀ fuel, Reads ((plainGrammar (depth + 1)).bodyAbove (fuel + 1) 0)
      (rowTokens values) (insertedRow values).body [] := by
    intro fuel
    refine body.bind ?_
    rfl
  have noCommonTables : ∀ rest, Reads (plainGrammar (depth + 1)).commonTables
      (.word "VALUES" none :: rest) "" (.word "VALUES" none :: rest) := fun rest => rfl
  have notChange : ∀ rest, Reads
      (Reader.nextIs fun token => token.isKeyword "INSERT" || token.isKeyword "UPDATE")
      (.word "VALUES" none :: rest) false (.word "VALUES" none :: rest) := fun rest => rfl
  have read : Reads (plainGrammar (depth + 1)).readQuery
      (rowTokens values) (insertedRow values) [] := by
    refine (noCommonTables _).bind ((notChange _).bind ?_)
    refine (Reads.rest _).bind ((bodies _).bind ?_)
    rfl
  exact read

/-- The list of columns is no query between parentheses. -/
theorem reads_nestedSelectNext {columns : List String} (listed : columns ≠ [])
    (apart : ∀ column ∈ columns, '_' ∈ column.toList) (rest : List Token) :
    Reads Grammar.nestedSelectNext (nameTokens columns ++ rest) false
      (nameTokens columns ++ rest) := by
  obtain ⟨first, others, rfl⟩ := List.exists_cons_of_ne_nil listed
  have notSelect := Token.isKeyword_of_underscore none (by decide : '_' ∉ "SELECT".toList)
    (apart first List.mem_cons_self)
  have begins : ∃ later, nameTokens (first :: others) =
      .symbol "(" :: .word first none :: later := by
    cases others with
    | nil => exact ⟨_, rfl⟩
    | cons second others => exact ⟨_, rfl⟩
  obtain ⟨later, begins⟩ := begins
  rw [begins]
  have asked : Reads Grammar.nestedSelectNext (.symbol "(" :: .word first none :: (later ++ rest))
      ((Token.word first none).isKeyword "SELECT")
      (.symbol "(" :: .word first none :: (later ++ rest)) := rfl
  rwa [notSelect] at asked

theorem reads_insertedRows (depth : Nat) {columns : List String} (listed : columns ≠ [])
    (apart : ∀ column ∈ columns, '_' ∈ column.toList) {values : List PlainValue}
    (something : values ≠ []) (insertion : Insert) :
    Reads ((plainGrammar (depth + 2)).insertedRows insertion)
      (nameTokens columns ++ rowTokens values)
      { insertion with
        columns := columns.map fun column => ⟨column, none⟩
        partition := ""
        columnsAfterPartition := []
        source? := some (insertedRow values) } [] := by
  have names := reads_optionalNameList (depth + 2) listed (rowTokens values)
  have query := reads_query depth something
  have notNested := reads_nestedSelectNext listed apart (rowTokens values)
  have notDefault : ∀ rest, Reads (Reader.keywords ["DEFAULT", "VALUES"]) (.symbol "(" :: rest)
      false (.symbol "(" :: rest) := fun rest => rfl
  have noPartition : Reads (plainGrammar (depth + 2)).insertPartition (rowTokens values) ""
      (rowTokens values) := rfl
  refine (notDefault _).bind (notNested.bind ?_)
  refine names.bind (noPartition.bind ((Reads.pure [] _).bind (query.bind ?_)))
  rfl

/-- The insertion that the tokens of generated text are read as. -/
def inserted (table : String) (columns : List String) (values : List PlainValue) : Insert where
  table := [⟨table, none⟩]
  columns := columns.map fun column => ⟨column, none⟩
  source? := some (insertedRow values)

section Insertion

variable {table : String} (underscore : '_' ∈ table.toList) {columns : List String}
  (listed : columns ≠ []) (apart : ∀ column ∈ columns, '_' ∈ column.toList)
  {values : List PlainValue} (something : values ≠ [])

include underscore

/-- The name of the table is no word that may stand before it. -/
theorem reads_keyword_table {word : String} (plain : '_' ∉ word.toList) (rest : List Token) :
    Reads (Reader.keyword word) (.word table none :: rest) false (.word table none :: rest) :=
  Reads.keyword_of_ne (Token.isKeyword_of_underscore none plain underscore) rest

include listed apart something

theorem reads_insertIntoTable (depth : Nat) :
    Reads ((plainGrammar (depth + 2)).insertIntoTable { table := [] })
      (.word table none :: (nameTokens columns ++ rowTokens values))
      (inserted table columns values) [] := by
  have rows := reads_insertedRows depth listed apart something { table := [⟨table, none⟩] }
  have named : Reads (Reader.qualifiedName (plainGrammar (depth + 2)).dialect)
      (.word table none :: (nameTokens columns ++ rowTokens values)) [⟨table, none⟩]
      (nameTokens columns ++ rowTokens values) := rfl
  refine (reads_keyword_table underscore (by decide) _).bind (named.bind ?_)
  refine (Reads.pure none _).bind (rows.bind ?_)
  rfl

theorem reads_insert (depth : Nat) :
    Reads ((plainGrammar (depth + 2)).insert false)
      (.word "INTO" none :: .word table none :: (nameTokens columns ++ rowTokens values))
      (.insert (inserted table columns values)) [] := by
  have filled := reads_insertIntoTable underscore listed apart something depth
  have before : ∀ rest, Reads Grammar.conflictAction (.word "INTO" none :: rest) false
      (.word "INTO" none :: rest) := fun rest => rfl
  have notDelayed : ∀ rest, Reads
      (do return (← Reader.oneOf? ["LOW_PRIORITY", "DELAYED", "HIGH_PRIORITY"]).isSome)
      (.word "INTO" none :: rest) false (.word "INTO" none :: rest) := fun rest => rfl
  have into : ∀ rest, Reads (Reader.keyword "INTO") (.word "INTO" none :: rest) true rest :=
    fun rest => rfl
  refine (before _).bind (((notDelayed _).onlyIf_of_denied _).bind ?_)
  refine ((Reads.keyword_of_ne (by decide) _).onlyIf_of_denied _).bind ?_
  refine Reads.bind (Reads.keyword_of_ne (by decide) _) ((into _).bind ?_)
  refine (reads_keyword_table underscore (by decide) _).bind ?_
  refine (reads_keyword_table underscore (by decide) _).bind ?_
  refine filled.bind ?_
  rfl

end Insertion

set_option maxRecDepth 4000 in
/-- A generated insertion is read as one row for its columns. -/
theorem parse?_insertSql {table : String} (tableLettered : Text.isLettered 't' table = true)
    {columns : List String} (listed : columns ≠ [])
    (lettered : ∀ column ∈ columns, Text.isLettered 'c' column = true)
    {values : List PlainValue} (something : values ≠ []) :
    parse? .mysql (insertSql table columns (values.map PlainValue.sql)) =
      some [.insert (inserted table columns values)] := by
  have scanned : scan .mysql (insertSql table columns (values.map PlainValue.sql)) = _ :=
    scan_insertSql values (isWord_of_isLettered tableLettered (by decide)) fun column member =>
      isWord_of_isLettered (lettered column member) (by decide)
  have read := reads_insert (Text.underscore_mem_toList tableLettered) listed
    (fun column member => Text.underscore_mem_toList (lettered column member)) something 47
  refine parse?_of_reads scanned ((Reads.peek? _).bind ?_)
  have found : (Token.word "INSERT" none).keyword? = some "INSERT" :=
    keyword?_of_getElem? 324 rfl (by decide)
  simp only [List.head?_cons, Option.bind_some, found]
  exact (Reads.skip _ _).bind read

end Sql

end OrmCode
