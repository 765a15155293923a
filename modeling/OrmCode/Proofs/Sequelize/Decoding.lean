import Mathlib.Data.List.Nodup
import OrmCode.Proofs.Sequelize.Spelling
import OrmCode.Proofs.Statement.Validity

/-!
# Decoding generated code

The code of an insertion, a query, an update or a deletion determines what the
statement asks of its model, whatever signs occur in its names and texts.
-/

namespace OrmCode

namespace Sequelize

/-- The call that some code stands for. -/
def decode (code : String) : Option Call :=
  (Javascript.terms? code).bind callOf?

theorem plain_of_collapsed {given? : Option Filter}
    (plain : ∀ value ∈ given?.toList.flatMap Filter.literals, value.isPlain = true) :
    ∀ value ∈ (given?.map Filter.collapsed).toList.flatMap Filter.literals,
      value.isPlain = true := by
  cases given? with
  | none => simp
  | some filter => simpa [Filter.literals_collapsed] using plain

theorem plain_of_records {inserted : Insertion}
    (plain : ∀ row ∈ inserted.rows, ∀ value ∈ row, value.isPlain = true) :
    ∀ value ∈ (Action.insertion (records inserted)).literals, value.isPlain = true := by
  intro value member
  obtain ⟨entry, listed, rfl⟩ := List.mem_map.mp member
  obtain ⟨row, rowListed, inRow⟩ := List.mem_flatten.mp listed
  obtain ⟨given, givenListed, rfl⟩ := List.mem_map.mp rowListed
  exact plain given givenListed entry.2 (List.of_mem_zip inRow).2

theorem plain_of_changes {updated : Update}
    (plain : ∀ value ∈ (Statement.update updated).values, value.isPlain = true) :
    ∀ entry ∈ changes updated, ∀ given ∈ entry.2.literals, given.isPlain = true := by
  intro entry member given written
  obtain ⟨⟨column, value⟩, listed, rfl⟩ := List.mem_map.mp member
  cases value with
  | literal other =>
      obtain rfl := List.mem_singleton.mp written
      exact plain _ (List.mem_map.mpr ⟨_, listed, rfl⟩)
  | changed changed change amount => cases change <;> cases written

/-- The terms of generated code are those of the call that the statement stands for,
and the call has nothing but plain constants. -/
theorem terms?_of_generate {settings : Settings} {statement : Statement} {call : Call}
    {code : String} (plain : statement.isPlain = true) (known : call? statement = some call)
    (generated : HandlerTable.complete.generate settings statement .sequelize = .ok code) :
    Javascript.terms? code = some (callTerms call) ∧
      ∀ value ∈ call.action.literals, value.isPlain = true := by
  rw [Statement.isPlain, List.all_append, Bool.and_eq_true, List.all_eq_true,
    List.all_eq_true] at plain
  obtain ⟨plainValues, plainFilter⟩ := plain
  cases statement with
  | create definition => cases known
  | unsupported name => cases known
  | insert inserted =>
      obtain rfl := Option.some.inj known
      have plainRows : ∀ row ∈ inserted.rows, ∀ value ∈ row, value.isPlain = true :=
        fun row member value listed => plainValues value (List.mem_flatten_of_mem member listed)
      exact ⟨terms?_of_insertion plainRows generated, plain_of_records plainRows⟩
  | select selected =>
      obtain rfl := Option.some.inj known
      exact ⟨terms?_of_selection plainFilter generated, plain_of_collapsed plainFilter⟩
  | update updated =>
      obtain rfl := Option.some.inj known
      have plainChanges := plain_of_changes plainValues
      refine ⟨terms?_of_modification plainChanges plainFilter generated, ?_⟩
      refine List.forall_mem_append.mpr ⟨?_, plain_of_collapsed plainFilter⟩
      intro value member
      obtain ⟨entry, listed, written⟩ := List.mem_flatMap.mp member
      exact plainChanges entry listed value written
  | delete deleted =>
      obtain rfl := Option.some.inj known
      exact ⟨terms?_of_deletion plainFilter generated, plain_of_collapsed plainFilter⟩

/-- The columns of every object of new values are different. -/
theorem nodup_of_generate {settings : Settings} {statement : Statement} {call : Call}
    {code : String} (known : call? statement = some call)
    (generated : HandlerTable.complete.generate settings statement .sequelize = .ok code) :
    ∀ columns ∈ call.action.records, columns.Nodup := by
  cases statement with
  | create definition => cases known
  | unsupported name => cases known
  | insert inserted =>
      obtain rfl := Option.some.inj known
      obtain ⟨_, passed, -⟩ := Outcome.bind_eq_ok.mp (generated : insertion inserted = .ok code)
      have valid := Outcome.mapError_eq_ok.mp passed
      intro columns member
      obtain ⟨row, listed, rfl⟩ := List.mem_map.mp member
      obtain ⟨given, givenListed, rfl⟩ := List.mem_map.mp listed
      rw [List.map_fst_zip (Nat.le_of_eq (Insertion.length_of_validate valid givenListed).symm)]
      exact Insertion.nodup_of_validate valid
  | select selected =>
      obtain rfl := Option.some.inj known
      exact fun columns member => absurd member List.not_mem_nil
  | update updated =>
      obtain rfl := Option.some.inj known
      obtain ⟨_, passed, -⟩ := Outcome.bind_eq_ok.mp
        (generated : modification ⟨.sequelize, settings⟩ updated = .ok code)
      have distinct := Update.nodup_of_validate (Outcome.mapError_eq_ok.mp passed)
      intro columns member
      obtain rfl := List.mem_singleton.mp member
      rw [changes, List.map_map]
      exact distinct
  | delete deleted =>
      obtain rfl := Option.some.inj known
      exact fun columns member => absurd member List.not_mem_nil

theorem decode_of_call? {settings : Settings} {statement : Statement} {call : Call}
    {code : String} (plain : statement.isPlain = true) (known : call? statement = some call)
    (generated : HandlerTable.complete.generate settings statement .sequelize = .ok code) :
    decode code = some call := by
  obtain ⟨spelled, plainLiterals⟩ := terms?_of_generate plain known generated
  rw [decode, spelled, Option.bind_some]
  refine callOf?_callTerms ?_ plainLiterals
  obtain ⟨table, -, rest⟩ := Option.bind_eq_some_iff.mp known
  obtain ⟨action, -, same⟩ := Option.bind_eq_some_iff.mp rest
  obtain rfl := Option.some.inj same
  -- The first period ends the model, since an identifier has none.
  intro point
  have continues := Text.continues_identifierAvoiding Text.javascriptReserved table '.' point
  revert continues
  decide

/-- Code is generated only of statements that stand for calls or define tables. -/
theorem exists_call? {settings : Settings} {statement : Statement} {code : String}
    (noTable : ∀ definition, statement ≠ .create definition)
    (generated : HandlerTable.complete.generate settings statement .sequelize = .ok code) :
    ∃ call, call? statement = some call := by
  cases statement with
  | create definition => exact absurd rfl (noTable definition)
  | unsupported name => cases generated
  | _ => exact ⟨_, rfl⟩

/-- Generated code that defines no table is decoded to the call that its statement
stands for, which has a condition exactly when the statement has a filter.  No object
of new values has a key twice, and no other statement with the same code stands for
another call. -/
theorem decode_generate {settings : Settings} {statement : Statement} {code : String}
    (noTable : ∀ definition, statement ≠ .create definition) (plain : statement.isPlain = true)
    (generated : HandlerTable.complete.generate settings statement .sequelize = .ok code) :
    ∃ call, call? statement = some call ∧ decode code = some call ∧
      call.action.filter?.isSome = statement.filter?.isSome ∧
      (∀ columns ∈ call.action.records,
        columns.Nodup ∧ (columns.map Text.javascriptKey).Nodup) ∧
      ∀ (otherSettings : Settings) (other : Statement),
        (∀ definition, other ≠ .create definition) → other.isPlain = true →
        HandlerTable.complete.generate otherSettings other .sequelize = .ok code →
        call? other = some call := by
  obtain ⟨call, known⟩ := exists_call? noTable generated
  have decoded := decode_of_call? plain known generated
  refine ⟨call, known, decoded, ?_, ?_, ?_⟩
  · obtain ⟨table, -, rest⟩ := Option.bind_eq_some_iff.mp known
    obtain ⟨action, found, same⟩ := Option.bind_eq_some_iff.mp rest
    obtain rfl := Option.some.inj same
    rw [filter?_of_action? found, Option.isSome_map]
  · intro columns member
    have distinct := nodup_of_generate known generated columns member
    exact ⟨distinct, List.Nodup.map Javascript.javascriptKey_injective distinct⟩
  · intro otherSettings other otherNoTable otherPlain otherGenerated
    obtain ⟨otherCall, otherKnown⟩ := exists_call? otherNoTable otherGenerated
    have otherDecoded := decode_of_call? otherPlain otherKnown otherGenerated
    rw [otherKnown, ← otherDecoded, decoded]

/-- An update whose names and texts are full of signs of the code. -/
def signedUpdate : Statement :=
  .update {
    table := "await"
    assignments := [
      { column := "a b", value := .literal (.string "x', y: [\n\x5c") },
      { column := "n", value := .changed "n" .addition (.number "1") },
      { column := "d", value := .changed "d" .subtraction (.string "o'k") }]
    filter? := some (.group .disjunction [.comparison {
      column := "c'd"
      comparator := .other "@>"
      operand := .list [.number "-1.5e+3", .null] }]) }

def signedCode : String :=
  "await await.update(\x7b 'a b': 'x\x5c', y: [\x5cn\x5c\x5c', " ++
    "n: sequelize.literal('n + 1'), d: sequelize.literal('d - \x5c'o\x5c'\x5c'k\x5c'') \x7d, " ++
    "\x7b where: sequelize.where(sequelize.col('c\x5c'd'), '@>', [-1.5e+3, null]) \x7d);"

theorem decode_signedCode :
    signedUpdate.isPlain = true ∧
      HandlerTable.complete.generate { unknownOperators := .lenient } signedUpdate .sequelize =
        .ok signedCode ∧
      decode signedCode = call? signedUpdate := by
  have noTable : ∀ definition, signedUpdate ≠ .create definition := by
    rintro definition ⟨⟩
  have plain : signedUpdate.isPlain = true := by decide +kernel
  have generated : HandlerTable.complete.generate { unknownOperators := .lenient } signedUpdate
      .sequelize = .ok signedCode := by decide +kernel
  obtain ⟨call, known, decoded, -⟩ := decode_generate noTable plain generated
  exact ⟨plain, generated, decoded.trans known.symm⟩

end Sequelize

end OrmCode
