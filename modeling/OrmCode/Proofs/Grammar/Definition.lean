import OrmCode.Proofs.Fixture.Tokens
import OrmCode.Proofs.Grammar.Reader

/-!
# Reading definitions of tables

The tokens of a generated definition are read as a table with its columns.  A column
is taken for a constraint only if its name is a keyword, and no name with an
underscore is one that a constraint starts with.
-/

namespace OrmCode

open Sql

namespace ColumnSpec

/-- The definition that the tokens of a column are read as. -/
def definition (column : ColumnSpec) : ColumnDefinition where
  name := ⟨column.name, none⟩
  type := column.sqlType
  options := (if column.notNull then [.notNull] else []) ++
    (if column.primaryKey then [.unique true] else [])

end ColumnSpec

namespace Sql

/-- The tokens that may follow the type of a column. -/
def endsType (token : Token) : Prop :=
  token ∈ [.word "NOT" none, .word "PRIMARY" none, .symbol ",", .symbol ")"]

set_option maxRecDepth 4000 in
theorem keyword?_typeWord {type : String} (usual : type ∈ ColumnSpec.usualTypes) :
    (Token.word (ColumnSpec.typeWord type) none).keyword? = some (ColumnSpec.typeWord type) := by
  simp only [ColumnSpec.usualTypes, List.mem_cons, List.not_mem_nil, or_false] at usual
  rcases usual with rfl | rfl | rfl | rfl | rfl | rfl
  · exact keyword?_of_getElem? 327 rfl (by decide)
  · exact keyword?_of_getElem? 50 rfl (by decide)
  · exact keyword?_of_getElem? 704 rfl (by decide)
  · exact keyword?_of_getElem? 58 rfl (by decide)
  · exact keyword?_of_getElem? 780 rfl (by decide)
  · exact keyword?_of_getElem? 147 rfl (by decide)

theorem reads_simple? (grammar : Grammar) {type : String}
    (usual : type ∈ ColumnSpec.usualTypes) {next : Token} (ends : endsType next)
    (rest : List Token) :
    Reads (TypeText.simple? grammar (ColumnSpec.typeWord type))
      (ColumnSpec.typeTokens type ++ next :: rest) (some type) (next :: rest) := by
  simp only [endsType, ColumnSpec.usualTypes, List.mem_cons, List.not_mem_nil, or_false]
    at usual ends
  rcases usual with rfl | rfl | rfl | rfl | rfl | rfl <;>
    rcases ends with rfl | rfl | rfl | rfl <;> rfl

/-- What follows the type opens no bracket. -/
theorem reads_brackets? (grammar : Grammar) (text : TypeText) {next : Token}
    (ends : endsType next) (rest : List Token) :
    Reads (TypeText.brackets? grammar text) (next :: rest) none (next :: rest) := by
  simp only [endsType, List.mem_cons, List.not_mem_nil, or_false] at ends
  rcases ends with rfl | rfl | rfl | rfl <;> rfl

theorem reads_typeText (grammar : Grammar) {type : String}
    (usual : type ∈ ColumnSpec.usualTypes) {next : Token} (ends : endsType next)
    (rest : List Token) :
    Reads grammar.typeText (ColumnSpec.typeTokens type ++ next :: rest) type (next :: rest) := by
  have simple := reads_simple? grammar usual ends rest
  have noBrackets := reads_brackets? grammar { text := type } ends rest
  have element : ∀ inner, Reads (TypeText.element grammar inner)
      (ColumnSpec.typeTokens type ++ next :: rest) { text := type } (next :: rest) := by
    intro inner
    refine (Reads.peek? _).bind ?_
    simp only [ColumnSpec.typeTokens, List.cons_append, List.head?_cons, keyword?_typeWord usual]
    refine simple.bind ?_
    rfl
  have iterated : Reads (Reader.iterate (TypeText.brackets? grammar) { text := type })
      (next :: rest) { text := type } (next :: rest) :=
    (Reads.rest _).bind (noBrackets.bind rfl)
  have type : Reads grammar.type (ColumnSpec.typeTokens type ++ next :: rest) { text := type }
      (next :: rest) := by
    refine (Reads.rest _).bind (((element _).bind iterated).bind ?_)
    rfl
  refine type.bind ?_
  rfl

set_option maxRecDepth 4000 in
theorem reads_options (depth : Nat) (column : ColumnSpec) {next : Token}
    (ends : next ∈ [Token.symbol ",", Token.symbol ")"]) (rest : List Token) :
    Reads (Reader.many (plainGrammar depth).columnOption?)
      (column.optionTokens ++ next :: rest) column.definition.options (next :: rest) := by
  obtain ⟨name, type, primaryKey, notNull⟩ := column
  simp only [List.mem_cons, List.not_mem_nil, or_false] at ends
  cases notNull <;> cases primaryKey <;> rcases ends with rfl | rfl <;> rfl

/-- What follows the type of a column ends that type. -/
theorem exists_endsType (column : ColumnSpec) {next : Token}
    (ends : next ∈ [Token.symbol ",", Token.symbol ")"]) (rest : List Token) :
    ∃ first others, column.optionTokens ++ next :: rest = first :: others ∧ endsType first := by
  obtain ⟨name, type, primaryKey, notNull⟩ := column
  cases notNull with
  | true => exact ⟨_, _, rfl, List.mem_cons_self⟩
  | false =>
      cases primaryKey with
      | true => exact ⟨_, _, rfl, List.mem_cons_of_mem _ List.mem_cons_self⟩
      | false =>
          exact ⟨_, _, rfl, List.mem_cons_of_mem _ (List.mem_cons_of_mem _ ends)⟩

theorem isKeyword_collate_of_endsType {token : Token} (ends : endsType token) :
    token.isKeyword "COLLATE" = false := by
  simp only [endsType, List.mem_cons, List.not_mem_nil, or_false] at ends
  rcases ends with rfl | rfl | rfl | rfl <;> decide

theorem reads_columnDefinition (depth : Nat) {column : ColumnSpec}
    (usual : column.sqlType ∈ ColumnSpec.usualTypes) :
    ReadsItem (plainGrammar depth).columnDefinition column.tokens column.definition := by
  intro next ends rest
  obtain ⟨first, others, same, endsFirst⟩ := exists_endsType column ends rest
  have typed := reads_typeText (plainGrammar depth) usual endsFirst others
  have options := reads_options depth column ends rest
  have noCollation := Reads.keyword_of_ne (isKeyword_collate_of_endsType endsFirst) others
  have named : Reads Reader.name (column.tokens ++ next :: rest) ⟨column.name, none⟩
      (ColumnSpec.typeTokens column.sqlType ++ first :: others) := by
    rw [← same, ← List.append_assoc]
    rfl
  have hasType : Reads (plainGrammar depth).untyped
      (ColumnSpec.typeTokens column.sqlType ++ first :: others) false
      (ColumnSpec.typeTokens column.sqlType ++ first :: others) := rfl
  rw [same] at options
  refine named.bind (hasType.bind (typed.bind (noCollation.bind (options.bind ?_))))
  rfl

/-- The words that a constraint among the columns of a table starts with. -/
def constraintWords : List String :=
  ["CONSTRAINT", "UNIQUE", "PRIMARY", "FOREIGN", "CHECK", "INDEX", "KEY", "FULLTEXT", "SPATIAL"]

theorem reads_tableConstraint? (depth : Nat) {token : Token}
    (apart : ∀ word ∈ constraintWords, token.isKeyword word = false) (rest : List Token) :
    Reads (plainGrammar depth).tableConstraint? (token :: rest) none (token :: rest) := by
  simp only [constraintWords, List.forall_mem_cons] at apart
  obtain ⟨constraint, unique, primary, foreign, check, index, key, fullText, spatial, -⟩ := apart
  have noIndex : Reads (do return (← Reader.oneOf? ["INDEX", "KEY"]).isSome) (token :: rest)
      false (token :: rest) :=
    (Reads.oneOf?_of_ne (by simp [index, key]) rest).bind rfl
  have notSpecial : Reads (do return (← Reader.oneOf? ["FULLTEXT", "SPATIAL"]).isSome)
      (token :: rest) false (token :: rest) :=
    (Reads.oneOf?_of_ne (by simp [fullText, spatial]) rest).bind rfl
  refine (Reads.keyword_of_ne constraint rest).bind ?_
  refine (Reads.keyword_of_ne unique rest).bind ?_
  refine (Reads.keyword_of_ne primary rest).bind ?_
  refine (Reads.keyword_of_ne foreign rest).bind ?_
  refine (Reads.keyword_of_ne check rest).bind ?_
  refine (noIndex.onlyIf_of_denied _).bind ((notSpecial.onlyIf_of_denied _).bind ?_)
  rfl

/-- The tokens of the columns of a table are read up to the closing parenthesis. -/
theorem reads_columnsWithin (depth : Nat) {columns : List ColumnSpec} (something : columns ≠ [])
    (each : ∀ column ∈ columns,
      '_' ∈ column.name.toList ∧ column.sqlType ∈ ColumnSpec.usualTypes)
    (rest : List Token) {fuel : Nat} (enough : columns.length ≤ fuel) :
    Reads ((plainGrammar depth).columnsWithin fuel)
      ([Token.symbol ","].intercalate (columns.map ColumnSpec.tokens) ++ .symbol ")" :: rest)
      (columns.map ColumnSpec.definition, []) rest := by
  induction columns generalizing fuel with
  | nil => exact absurd rfl something
  | cons first columns induction =>
      obtain ⟨⟨underscore, usual⟩, later⟩ := List.forall_mem_cons.mp each
      obtain ⟨fuel, rfl⟩ := Nat.exists_eq_succ_of_ne_zero (Nat.ne_zero_of_lt enough)
      have left := Nat.le_of_succ_le_succ enough
      have noConstraint : ∀ rest, Reads (plainGrammar depth).tableConstraint?
          (first.tokens ++ rest) none (first.tokens ++ rest) := by
        intro rest
        refine reads_tableConstraint? depth (fun word member => ?_) _
        refine Token.isKeyword_of_underscore none ?_ underscore
        revert word
        decide
      have word : ∀ rest, Reads Grammar.wordNext (first.tokens ++ rest) true
          (first.tokens ++ rest) := fun rest => rfl
      have column := reads_columnDefinition depth usual
      cases columns with
      | nil =>
          rw [List.map_singleton, List.intercalate_singleton]
          refine (noConstraint _).bind ((word _).bind ((column _ (by simp) rest).bind ?_))
          rfl
      | cons second columns =>
          have others := induction (List.cons_ne_nil second columns) later left
          rw [List.map_cons, List.map_cons, List.intercalate_cons_cons, ← List.map_cons,
            List.append_assoc, List.append_assoc]
          refine (noConstraint _).bind ((word _).bind ((column _ (by simp) _).bind ?_))
          have noClosing : ∀ tokens, Reads
              (Reader.onlyIf (plainGrammar depth).dialect.trailingCommas (Reader.symbol ")"))
              tokens false tokens :=
            fun tokens => rfl
          refine (Reads.pure _ _).bind ((Reads.symbol "," _).bind ?_)
          refine (noClosing _).bind (others.bind ?_)
          rfl

/-- The table that the tokens of a definition are read as. -/
def createdTable (table : String) (columns : List ColumnSpec) : CreateTable where
  name := [⟨table, none⟩]
  columns := columns.map ColumnSpec.definition
  constraints := []

theorem reads_createTable (depth : Nat) {table : String} {columns : List ColumnSpec}
    (underscore : '_' ∈ table.toList) (something : columns ≠ [])
    (each : ∀ column ∈ columns,
      '_' ∈ column.name.toList ∧ column.sqlType ∈ ColumnSpec.usualTypes) :
    Reads (plainGrammar depth).createTable
      (.word table none :: listTokens (columns.map ColumnSpec.tokens))
      (createdTable table columns) [] := by
  have noCondition := Reads.keywords_of_ne
    (Token.isKeyword_of_underscore none (by decide : '_' ∉ "IF".toList) underscore)
    ["NOT", "EXISTS"] (listTokens (columns.map ColumnSpec.tokens))
  have named : Reads (Reader.qualifiedName (plainGrammar depth).dialect)
      (.word table none :: listTokens (columns.map ColumnSpec.tokens)) [⟨table, none⟩]
      (listTokens (columns.map ColumnSpec.tokens)) := rfl
  have notCluster : Reads (Reader.keywords ["ON", "CLUSTER"])
      (listTokens (columns.map ColumnSpec.tokens)) false
      (listTokens (columns.map ColumnSpec.tokens)) := rfl
  have notLike : Reads (Reader.oneOf? ["LIKE", "ILIKE"])
      (listTokens (columns.map ColumnSpec.tokens)) none
      (listTokens (columns.map ColumnSpec.tokens)) := rfl
  have noClone : Reads (Reader.keyword "CLONE")
      (listTokens (columns.map ColumnSpec.tokens)) false
      (listTokens (columns.map ColumnSpec.tokens)) := rfl
  have enough := length_le_intercalate_comma (columns.map ColumnSpec.tokens)
  have listed : Reads (plainGrammar depth).columns (listTokens (columns.map ColumnSpec.tokens))
      (columns.map ColumnSpec.definition, []) [] := by
    have notEmpty : Reads (Reader.symbol ")")
        ([Token.symbol ","].intercalate (columns.map ColumnSpec.tokens) ++ [.symbol ")"]) false
        ([Token.symbol ","].intercalate (columns.map ColumnSpec.tokens) ++ [.symbol ")"]) := by
      obtain ⟨first, others, rfl⟩ := List.exists_cons_of_ne_nil something
      cases others with
      | nil => rfl
      | cons second others => rfl
    refine (Reads.symbol "(" _).bind (notEmpty.bind ?_)
    refine (Reads.rest _).bind ?_
    exact reads_columnsWithin depth something each [] (by
      rw [List.length_map] at enough
      rw [List.length_append]
      omega)
  refine noCondition.bind (named.bind ?_)
  refine notCluster.bind (notLike.bind ((Reads.pure none _).bind ?_))
  refine noClone.bind (listed.bind ?_)
  rfl

theorem reads_create {depth : Nat} {tokens : List Token} {table : CreateTable}
    (read : Reads (plainGrammar depth).createTable tokens table []) :
    Reads (plainGrammar depth).create (.word "TABLE" none :: tokens) (.create table) [] := by
  have isTable : Reads (Reader.keyword "TABLE") (.word "TABLE" none :: tokens) true tokens := rfl
  refine Reads.bind (Reads.keywords_of_ne (by decide) _ _) ?_
  refine Reads.bind (Reads.keywords_of_ne (by decide) _ _) ?_
  refine Reads.bind (Reads.keyword_of_ne (by decide) _) ?_
  refine Reads.bind (Reads.keyword_of_ne (by decide) _) ?_
  refine Reads.bind (Reads.keyword_of_ne (by decide) _) ?_
  refine Reads.bind (Reads.oneOf?_of_ne (by decide) _) ?_
  refine Reads.bind ((Reads.keyword_of_ne (by decide) _).onlyIf_of_denied _) ?_
  refine isTable.bind (read.bind ?_)
  rfl

set_option maxRecDepth 4000 in
/-- A generated definition is read as its table. -/
theorem parse?_createTableSql {table : String} {columns : List ColumnSpec}
    (tableLettered : Text.isLettered 't' table = true) (something : columns ≠ [])
    (each : ∀ column ∈ columns,
      Text.isLettered 'c' column.name = true ∧ column.sqlType ∈ ColumnSpec.usualTypes) :
    parse? .mysql (createTableSql table columns) = some [.create (createdTable table columns)] := by
  have scanned : scan .mysql (createTableSql table columns) = _ :=
    scan_createTableSql (isWord_of_isLettered tableLettered (by decide)) fun column member =>
      ⟨isWord_of_isLettered (each column member).1 (by decide), (each column member).2⟩
  have read := reads_create (reads_createTable 49 (Text.underscore_mem_toList tableLettered)
    something fun column member =>
      ⟨Text.underscore_mem_toList (each column member).1, (each column member).2⟩)
  refine parse?_of_reads scanned ((Reads.peek? _).bind ?_)
  have found : (Token.word "CREATE" none).keyword? = some "CREATE" :=
    keyword?_of_getElem? 121 rfl (by decide)
  simp only [List.head?_cons, Option.bind_some, found]
  exact (Reads.skip _ _).bind read

end Sql

end OrmCode
