import OrmCode.Proofs.Grammar.Change
import OrmCode.Proofs.Grammar.Update
import OrmCode.Proofs.Meaning.Faithful
import OrmCode.Proofs.Reading

/-!
# Changes of a column as SQL

The change of a column by an amount is written as the SQL of a sum or a difference, in which the
name of the column stands bare and a text between quotes.  As the new value of a column this SQL
is read as the same change, if and only if the dialect reads the name as a bare column and the
constant as itself.
-/

namespace OrmCode

namespace Lowering

/-- The only new value that an update gives is made of the first value that it is read with. -/
theorem exists_assignedValue_of_update {parsed : Sql.UpdateStatement} {updated : Update}
    {name : Sql.QualifiedName} {value : Sql.Expr} {others : List Sql.SetClause}
    {assignment : Assignment} (made : update parsed = .ok updated)
    (listed : parsed.assignments = { target := .column name, value } :: others)
    (only : updated.assignments = [assignment]) :
    ∃ scope, assignedValue scope value = .ok assignment.value := by
  obtain ⟨-, -, -, scope, -, -, lowered, -⟩ := Sql.UpdateStatement.update_eq_ok.mp made
  rw [listed, only] at lowered
  cases Outcome.mapM_eq_ok.mp lowered with
  | cons first =>
      obtain ⟨column, -, first⟩ := Outcome.bind_eq_ok.mp first
      obtain ⟨found, assigned, same⟩ := Outcome.bind_eq_ok.mp first
      cases same
      exact ⟨scope, assigned⟩

theorem update_singleUpdate {value : Sql.Expr} {assigned : AssignedValue}
    (made : assignedValue ⟨"t", none⟩ value = .ok assigned) :
    update (Sql.singleUpdate value) =
      .ok { table := "t", assignments := [⟨"c", assigned⟩], filter? := none } := by
  have assigned : [{ target := .column [⟨"c", none⟩], value }].mapM (assignment ⟨"t", none⟩) =
      .ok [⟨"c", assigned⟩] := by
    refine Outcome.mapM_eq_ok.mpr (.cons ?_ .nil)
    exact Outcome.bind_eq_ok.mpr ⟨"c", rfl, Outcome.bind_eq_ok.mpr ⟨_, made, rfl⟩⟩
  exact Sql.UpdateStatement.update_eq_ok.mpr
    ⟨rfl, rfl, rfl, ⟨"t", none⟩, rfl, rfl, assigned, rfl⟩

end Lowering

namespace Sql

/-- The dialect reads a name as a bare column where a sign follows. -/
def Dialect.ReadsBare (dialect : Dialect) (column : String) : Prop :=
  dialect.IsBareName column ∧ dialect.isOperandWord (Text.capitals column) = false

end Sql

namespace Sequelize

/-- The SQL of the new value of a changed column. -/
def changeSql (column : String) (change : Change) (amount : Literal) : String :=
  column ++ changeSign change ++ sqlLiteral amount

/-- An update that gives some column a new value. -/
def updateSql (value : String) : String :=
  "UPDATE t SET c = " ++ value

variable {dialect : Sql.Dialect} {maxLength : Nat} {column : String} {change : Change}
  {amount : Literal}

theorem toList_updateSql (value : String) :
    (updateSql value).toList = ["UPDATE", "t", "SET", "c"].foldr
      (fun word rest => word.toList ++ ' ' :: rest) ('=' :: ' ' :: value.toList) :=
  String.toList_append

theorem toList_changeSql (column : String) (change : Change) (amount : Literal) :
    (changeSql column change amount).toList =
      column.toList ++ ' ' :: (change.symbol.toList ++ ' ' :: (sqlLiteral amount).toList) := by
  cases change <;>
    simp [changeSql, changeSign, Change.symbol]

theorem ink_changeSql (column : String) (change : Change) (amount : Literal) :
    Sql.ink (changeSql column change amount).toList =
      Sql.ink column.toList + 1 + Sql.inkOfConstant amount := by
  rw [toList_changeSql, Sql.inkOfConstant]
  cases change <;> simp [Change.symbol, Sql.inkOf] <;> omega

theorem scan_updateSql (value : String) :
    Sql.scan dialect (updateSql value) =
      (Sql.tokens? dialect value.toList).map Sql.updateTokens := by
  have bare : ∀ word ∈ ["UPDATE", "t", "SET", "c"], dialect.IsBareName word := by
    cases dialect <;> exact List.forall_mem_cons.mpr ⟨rfl, List.forall_mem_cons.mpr ⟨rfl,
      List.forall_mem_cons.mpr ⟨rfl, List.forall_mem_cons.mpr ⟨rfl, nofun⟩⟩⟩⟩
  have equals : Sql.scanStep dialect '=' (' ' :: value.toList) =
      some (some (.symbol "="), ' ' :: value.toList) := by
    cases dialect <;> rfl
  have blank : Sql.scanStep dialect ' ' value.toList = some (none, value.toList) := rfl
  rw [Sql.scan_eq_tokens?, toList_updateSql, Sql.Dialect.IsBareName.tokens?_words bare,
    Sql.tokens?_of_step equals, Sql.tokens?_of_step blank, Option.map_map, Option.map_map]
  rfl

/-- A change whose tokens are a bare word, a sign and a constant is written with a bare name and
a constant that is read as itself. -/
theorem readsBack_of_tokens? {used : List Sql.Token}
    (scanned : Sql.tokens? dialect (changeSql column change amount).toList =
      some (.word column none :: .symbol change.symbol :: used))
    (constant : Sql.ConstantTokens dialect amount used) :
    dialect.IsBareName column ∧ dialect.ReadsBack amount := by
  have counts := constant.inkOfConstant_eq
  rw [Sql.inkOfConstant] at counts
  have tight : Sql.ink (change.symbol.toList ++ ' ' :: (sqlLiteral amount).toList) ≤
      Sql.held (.symbol change.symbol :: used) := by
    cases change <;> simp [Change.symbol, Sql.inkOf, counts]
  rw [toList_changeSql] at scanned
  obtain ⟨bare, later⟩ := Sql.Dialect.IsBareName.of_tokens? scanned tight
  rw [Sql.tokens?_changeSign] at later
  obtain ⟨tokens, again, same⟩ := Option.map_eq_some_iff.mp later
  obtain rfl : tokens = used := List.tail_eq_of_cons_eq same
  exact ⟨bare, Sql.readsBack_of_constantTokens constant again⟩

/-- What is read back as the change is a bare column and a constant. -/
theorem readsBare_of_read {updated : Update}
    (read : Reading.read dialect maxLength (updateSql (changeSql column change amount)) =
      .ok (.update updated))
    (only : updated.assignments = [⟨"c", .changed column change amount⟩]) :
    dialect.ReadsBare column ∧ dialect.ReadsBack amount := by
  obtain ⟨-, -, parsed, found, lowered⟩ := Reading.read_eq_ok_iff.mp read
  obtain ⟨_, whole, -⟩ := Option.bind_eq_some_iff.mp found
  obtain ⟨value, scanned, rfl⟩ := Option.map_eq_some_iff.mp (scan_updateSql _ ▸ whole)
  -- The new value is an expression behind which some tokens may be left.
  obtain ⟨rest, statement, done⟩ := Sql.reads_of_parse? whole found
  obtain ⟨parsed, rfl, updates⟩ := (@Sql.reads_updateTokens_iff _ 49 _ _ _).mp statement
  obtain ⟨expression, left, others, expressed, listed⟩ := Sql.exists_of_reads_update updates
  obtain ⟨_, made, same⟩ := Outcome.map_eq_ok.mp lowered
  cases same
  obtain ⟨scope, changes⟩ := Lowering.exists_assignedValue_of_update made listed only
  -- It holds all characters that count, so that nothing is left.
  have bound := ink_changeSql column change amount ▸ Sql.held_le_ink scanned
  obtain ⟨nothing, used, constant, rfl⟩ := Sql.accounted_of_change expressed changes bound
  obtain ⟨-, rfl⟩ := (Sql.reads_singleUpdate expressed nothing).unique updates
  obtain rfl := done nothing
  rw [List.append_nil] at scanned expressed
  obtain ⟨bare, reads⟩ := readsBack_of_tokens? scanned constant
  refine ⟨⟨bare, Bool.eq_false_iff.mpr fun own => ?_⟩, reads⟩
  exact Sql.not_changed_of_operandWord 45 constant change scope own expressed changes

/-- A bare column and a constant are read back as the change. -/
theorem read_changeSql (bare : dialect.ReadsBare column) (constant : dialect.ReadsBack amount)
    (short : (updateSql (changeSql column change amount)).utf8ByteSize ≤ maxLength) :
    Reading.read dialect maxLength (updateSql (changeSql column change amount)) =
      .ok (.update { table := "t", assignments := [⟨"c", .changed column change amount⟩],
                     filter? := none }) := by
  obtain ⟨used, tokens, scanned⟩ := Sql.exists_constantTokens constant
  have whole : Sql.scan dialect (updateSql (changeSql column change amount)) =
      some (Sql.updateTokens (.word column none :: .symbol change.symbol :: used)) := by
    rw [scan_updateSql, toList_changeSql, bare.1.tokens?, Sql.tokens?_changeSign, scanned]
    rfl
  obtain ⟨expression, expressed, changes⟩ :=
    Sql.reads_changed 45 tokens change ⟨"t", none⟩ bare.2
  have statement := (@Sql.reads_updateTokens_iff _ 49 _ _ _).mpr
    ⟨_, rfl, Sql.reads_singleUpdate expressed rfl⟩
  have lowered := Lowering.update_singleUpdate changes
  refine Reading.read_eq_ok_iff.mpr ⟨?_, short, _, Sql.parse?_of_statement whole statement, ?_⟩
  · rw [Text.allBlank, toList_updateSql]
    rfl
  · rw [Lowering.statement, lowered]
    rfl

/-- The SQL that a changed column is written as is read as the same change of the column, if and
only if the dialect reads its name as a bare column and the constant as itself, and the text
is not too long. -/
theorem reads_changeSql_iff (dialect : Sql.Dialect) (maxLength : Nat) (column : String)
    (change : Change) (amount : Literal) :
    assignedValue (.changed column change amount) = sqlText (changeSql column change amount) ∧
      ((∃ updated, Reading.read dialect maxLength (updateSql (changeSql column change amount)) =
            .ok (.update updated) ∧
          updated.assignments = [⟨"c", .changed column change amount⟩]) ↔
        (updateSql (changeSql column change amount)).utf8ByteSize ≤ maxLength ∧
          dialect.ReadsBare column ∧ dialect.ReadsBack amount) := by
  refine ⟨rfl, ?_, ?_⟩
  · rintro ⟨updated, read, only⟩
    exact ⟨(Reading.read_eq_ok_iff.mp read).2.1, readsBare_of_read read only⟩
  · rintro ⟨short, bare, constant⟩
    exact ⟨_, read_changeSql bare constant short, rfl⟩

end Sequelize

end OrmCode
