import OrmCode.Proofs.Code.Count
import OrmCode.Proofs.Lowering.Qualifier
import OrmCode.Proofs.Scan.Numeral

/-!
# Counts of rows

An expression counts rows if it stands for digits that write a number below two to the power of
sixty-four, and the number is then its count.  Any other expression is refused.  A query has the
counts of its clauses, and code of either target says them again, since the constants of its
condition are plain if their numbers are ones that some text is read with.
-/

namespace OrmCode

namespace Sql

/-- Whether each number in an expression is one that some text is read with. -/
def Expr.NumbersScanned (expression : Expr) : Prop :=
  ∀ numeral long, value (.number numeral long) ∈ expression.parts → IsScanned numeral

theorem Expr.core_mem_parts (expression : Expr) : expression.core ∈ expression.parts := by
  fun_induction core expression with
  | case1 operand induction => exact List.mem_cons_of_mem _ induction
  | case2 inner induction => exact List.mem_cons_of_mem _ induction
  | case3 expression => cases expression <;> exact List.mem_cons_self

theorem Expr.NumbersScanned.of_subset {expression part : Expr}
    (scanned : expression.NumbersScanned) (inside : part.parts ⊆ expression.parts) :
    part.NumbersScanned :=
  fun numeral long member => scanned numeral long (inside member)

theorem Expr.subset_partsOfAll {items : List Expr} {item : Expr} (member : item ∈ items) :
    item.parts ⊆ parts.partsOfAll items := by
  induction member with
  | head items => exact List.subset_append_left _ _
  | tail first member induction => exact List.subset_append_of_subset_right _ induction

/-- Whether each number that a statement selects, compares or assigns is one that some text is
read with. -/
def ParsedStatement.NumbersScanned (parsed : ParsedStatement) : Prop :=
  ∀ expression ∈ parsed.expressions, expression.NumbersScanned

end Sql

namespace Lowering

open Sql (Expr)

theorem count_eq_ok_iff {expression : Expr} {number : Nat} :
    count expression = .ok number ↔ ∃ numeral, literal expression = .ok (.number numeral) ∧
      Text.IsDigits numeral.toList ∧ Nat.ofDigitChars 10 numeral.toList 0 = number ∧
      number < 2 ^ 64 := by
  simp only [← Text.count?_eq_some_iff]
  rw [count, Outcome.bind_eq_ok]
  constructor
  · rintro ⟨constant, found, counted⟩
    cases constant with
    | number numeral =>
        refine ⟨numeral, found, ?_⟩
        cases given : Text.count? numeral with
        | none => simp [given, throw, throwThe, MonadExceptOf.throw] at counted
        | some value => simpa [given, pure, Except.pure] using counted
    | _ => cases counted
  · rintro ⟨numeral, found, counted⟩
    exact ⟨.number numeral, found, by simp [counted, pure, Except.pure]⟩

/-- A sign before digits is none of them. -/
theorem not_isDigits_signed (numeral : String) : ¬Text.IsDigits ("-" ++ numeral).toList := by
  intro digits
  have sign := digits.each '-' (by simp)
  revert sign
  decide

/-- A count is written by digits within an even number of signs. -/
theorem count_eq_ok_iff_core {expression : Expr} (unsigned : expression.IsUnsigned)
    {number : Nat} : count expression = .ok number ↔
      ∃ numeral long, expression.core = .value (.number numeral long) ∧ Even expression.signs ∧
        Text.IsDigits numeral.toList ∧ Nat.ofDigitChars 10 numeral.toList 0 = number ∧
        number < 2 ^ 64 := by
  rw [count_eq_ok_iff]
  constructor
  · rintro ⟨numeral, found, digits, counted⟩
    obtain ⟨constant, core, -⟩ := literal_eq_ok_iff_signed?.mp found
    obtain ⟨magnitude, long, written, rfl⟩ | word := cases_of_literal_core core
    · rw [literal_of_number written (unsigned magnitude long written)] at found
      obtain rfl := Literal.number.inj (Except.ok.inj found)
      split at digits
      · next even =>
          rw [if_pos even] at counted
          exact ⟨magnitude, long, written, even, digits, counted⟩
      · exact absurd digits (not_isDigits_signed magnitude)
    · obtain ⟨-, rfl⟩ := (literal_eq_ok_iff_of_isWord word).mp found
      cases (literal_of_isWord word).2
  · rintro ⟨numeral, long, written, even, digits, counted⟩
    have found := literal_of_number written (unsigned numeral long written)
    rw [if_pos even] at found
    exact ⟨numeral, found, digits, counted⟩

theorem isPlain_of_isWord {expression : Expr} {constant : Literal}
    (word : expression.IsWord constant) : constant.isPlain = true := by
  cases word <;> rfl

/-- What an expression stands for is plain if its number is one that some text is read with. -/
theorem isPlain_of_literal {expression : Expr} {value : Literal}
    (scanned : expression.NumbersScanned) (found : literal expression = .ok value) :
    value.isPlain = true := by
  obtain ⟨constant, core, -⟩ := literal_eq_ok_iff_signed?.mp found
  obtain ⟨numeral, long, written, rfl⟩ | word := cases_of_literal_core core
  · have inside := scanned numeral long (written ▸ expression.core_mem_parts)
    rw [literal_of_number written inside.isSigned] at found
    obtain rfl := Except.ok.inj found
    obtain ⟨plain, plainSigned⟩ := inside.isNumeral
    rw [Literal.isPlain]
    split
    · exact plain
    · exact plainSigned
  · obtain ⟨-, rfl⟩ := (literal_eq_ok_iff_of_isWord word).mp found
    exact isPlain_of_isWord word

theorem isPlain_of_comparison {scope : Scope} {subject constant : Expr} {comparator : Comparator}
    {filter : Filter} (scanned : constant.NumbersScanned)
    (lowered : comparison scope subject comparator constant = .ok filter) :
    ∀ value ∈ filter.literals, value.isPlain = true := by
  obtain ⟨column, -, rest⟩ := Outcome.bind_eq_ok.mp lowered
  obtain ⟨value, found, same⟩ := Outcome.bind_eq_ok.mp rest
  obtain rfl := Except.ok.inj same
  rw [Filter.compare, Filter.literals_comparison]
  exact List.forall_mem_singleton.mpr (isPlain_of_literal scanned found)

/-- The constants of a condition are plain if its numbers are ones that some text is read with. -/
theorem isPlain_of_filter {scope : Scope} {expression : Expr} {filter : Filter}
    (scanned : expression.NumbersScanned)
    (lowered : Lowering.filter scope expression = .ok filter) :
    ∀ value ∈ filter.literals, value.isPlain = true := by
  fun_induction Lowering.filter scope expression generalizing filter with
  | case1 inner induction =>
      exact induction (scanned.of_subset (List.subset_cons_self _ _)) lowered
  | case2 operand induction =>
      obtain ⟨inner, found, same⟩ := Outcome.bind_eq_ok.mp lowered
      obtain rfl := Except.ok.inj same
      rw [Filter.literals_negation]
      exact induction (scanned.of_subset (List.subset_cons_self _ _)) found
  | case3 left right leftInduction rightInduction
  | case4 left right leftInduction rightInduction =>
      obtain ⟨first, leftLowered, rest⟩ := Outcome.bind_eq_ok.mp lowered
      obtain ⟨second, rightLowered, same⟩ := Outcome.bind_eq_ok.mp rest
      obtain rfl := Except.ok.inj same
      rw [Filter.literals_group, List.flatMap_append, flatMap_operands Filter.literals_group,
        flatMap_operands Filter.literals_group, List.forall_mem_append]
      exact ⟨leftInduction (scanned.of_subset (by simp [Expr.parts])) leftLowered,
        rightInduction (scanned.of_subset (by simp [Expr.parts])) rightLowered⟩
  | case5 operator left right notAnd notOr arithmetic => cases lowered
  | case6 operator left right notAnd notOr arithmetic =>
      exact isPlain_of_comparison (scanned.of_subset (by simp [Expr.parts])) lowered
  | case7 kind isNegated any subject pattern escape? =>
      exact isPlain_of_comparison (scanned.of_subset (by simp [Expr.parts])) lowered
  | case8 isNegated subject items =>
      obtain ⟨values, found, rest⟩ := Outcome.bind_eq_ok.mp lowered
      obtain ⟨column, -, same⟩ := Outcome.bind_eq_ok.mp rest
      obtain rfl := Except.ok.inj same
      rw [Filter.literals_comparison]
      intro value member
      obtain ⟨item, listed, read⟩ := Outcome.exists_mem_of_mem_mapM found member
      have inside : item.parts ⊆ (Expr.inList isNegated subject items).parts := by
        rw [Expr.parts]
        exact List.subset_cons_of_subset _
          (List.subset_append_of_subset_right _ (Expr.subset_partsOfAll listed))
      exact isPlain_of_literal (scanned.of_subset inside) read
  | case9 isNegated subject low high =>
      obtain ⟨column, -, rest⟩ := Outcome.bind_eq_ok.mp lowered
      obtain ⟨least, leastFound, rest⟩ := Outcome.bind_eq_ok.mp rest
      obtain ⟨greatest, greatestFound, same⟩ := Outcome.bind_eq_ok.mp rest
      obtain rfl := Except.ok.inj same
      have plainLeast := isPlain_of_literal
        (scanned.of_subset fun part member => by simp [Expr.parts, member]) leastFound
      have plainGreatest := isPlain_of_literal
        (scanned.of_subset fun part member => by simp [Expr.parts, member]) greatestFound
      cases isNegated <;>
        simpa [Filter.compare, Filter.literals_negation, Filter.literals_group,
          Filter.literals_comparison, Operand.literals] using ⟨plainLeast, plainGreatest⟩
  | case10 isNegated subject =>
      obtain ⟨column, -, same⟩ := Outcome.bind_eq_ok.mp lowered
      obtain rfl := Except.ok.inj same
      rw [Filter.compare, Filter.literals_comparison]
      exact List.forall_mem_singleton.mpr rfl
  | case11 expression => cases lowered

theorem count?_eq_ok_iff {clause? : Option Expr} {count? : Option Nat} :
    Lowering.count? clause? = .ok count? ↔
      Option.Rel (fun expression number => count expression = .ok number) clause? count? := by
  constructor
  · intro lowered
    cases clause? with
    | none =>
        obtain rfl := Except.ok.inj lowered
        exact .none
    | some expression =>
        obtain ⟨number, counted, rfl⟩ := Outcome.map_eq_ok.mp lowered
        exact .some counted
  · rintro (counted | _)
    · exact Outcome.map_eq_ok.mpr ⟨_, counted, rfl⟩
    · rfl

/-- The constants of a query are plain if its numbers are ones that some text is read with. -/
theorem isPlain_of_selection {query : Sql.Query} {selected : Selection}
    (scanned : (Sql.ParsedStatement.query query).NumbersScanned)
    (lowered : selection query = .ok selected) :
    (Statement.select selected).isPlain = true := by
  obtain ⟨plain, -, scope, found, -, -, -, -, condition, -⟩ :=
    Sql.Query.selection_eq_ok.mp lowered
  have body := (Sql.Query.plainSelect_eq_ok.mp found).1
  rw [Statement.isPlain, Statement.values, List.nil_append, List.all_eq_true]
  intro value member
  obtain ⟨filter, given, listed⟩ := List.mem_flatMap.mp member
  rw [Option.mem_toList] at given
  have given : selected.filter? = some filter := given
  rw [given] at condition
  cases clause : plain.condition? with
  | none =>
      rw [clause] at condition
      cases condition
  | some expression =>
      rw [clause] at condition
      obtain ⟨lowered, filtered, same⟩ := Outcome.map_eq_ok.mp condition
      obtain rfl := Option.some.inj same
      refine isPlain_of_filter (scanned expression ?_) filtered value listed
      simp [Sql.ParsedStatement.expressions, body, clause]

/-- An expression of unsigned numbers counts rows exactly if it stands for digits that write a
number below two to the power of sixty-four, which is its count: its digits stand within an even
number of signs.  Any other expression is refused as unsupported.  The counts of a query are those
of its clauses, and code of either target says exactly them. -/
theorem count_determined {expression : Expr} (unsigned : expression.IsUnsigned) :
    (∀ number, count expression = .ok number ↔
      ∃ numeral, literal expression = .ok (.number numeral) ∧ Text.IsDigits numeral.toList ∧
        Nat.ofDigitChars 10 numeral.toList 0 = number ∧ number < 2 ^ 64) ∧
    (∀ number, count expression = .ok number ↔
      ∃ numeral long, expression.core = .value (.number numeral long) ∧ Even expression.signs ∧
        Text.IsDigits numeral.toList ∧ Nat.ofDigitChars 10 numeral.toList 0 = number ∧
        number < 2 ^ 64) ∧
    ((∀ number, count expression ≠ .ok number) → ∃ reason, count expression = .error reason ∧
      reason.fault = .unsupportedConstruct reason.text) ∧
    ∀ (query : Sql.Query) (selected : Selection), selection query = .ok selected →
      Option.Rel (fun clause number => count clause = .ok number) query.limit? selected.limit? ∧
      Option.Rel (fun clause number => count clause = .ok number) query.offset?
        selected.offset? ∧
      ((Sql.ParsedStatement.query query).NumbersScanned →
        ∀ (settings : Settings) (target : Target) (code : String),
          HandlerTable.complete.generate settings (.select selected) target = .ok code →
          target.counts? code = some (selected.limit?, selected.offset?)) := by
  refine ⟨fun number => count_eq_ok_iff, fun number => count_eq_ok_iff_core unsigned,
    fun refused => ?_, fun query selected lowered => ?_⟩
  · cases counted : count expression with
    | ok number => exact absurd counted (refused number)
    | error reason => exact ⟨reason, rfl, rfl⟩
  · obtain ⟨-, -, -, -, -, -, -, -, -, -, limit, offset⟩ :=
      Sql.Query.selection_eq_ok.mp lowered
    refine ⟨count?_eq_ok_iff.mp limit, count?_eq_ok_iff.mp offset, ?_⟩
    intro scanned settings target code generated
    exact Target.counts?_of_generate (isPlain_of_selection scanned lowered) generated

/-- The expression `-(-007)`. -/
def signedCount : Expr :=
  .minus (.nested (.minus (.value (.number "007" false))))

/-- `SELECT * FROM t WHERE a = 1 LIMIT -(-007)`. -/
def limitedQuery : Sql.Query where
  body := .select {
    items := [.everything ""]
    sources := [⟨.named [⟨"t", none⟩] "" none "" "", []⟩]
    condition? := some (.binary (.other "=") (.column [⟨"a", none⟩]) (.value (.number "1" false))) }
  limit? := some signedCount

def limitedSelection : Selection where
  table := "t"
  filter? := some (.compare "a" (.ofSql "=") (.number "1"))
  limit? := some 7

def limitedCode : String :=
  "await t.findAll(\x7b where: \x7b a: \x7b [Op.eq]: 1 \x7d \x7d, limit: 7 \x7d);"

theorem count_of_limitedQuery :
    signedCount.IsUnsigned ∧ count signedCount = .ok 7 ∧
      selection limitedQuery = .ok limitedSelection ∧
      (Sql.ParsedStatement.query limitedQuery).NumbersScanned ∧
      HandlerTable.complete.generate {} (.select limitedSelection) .sequelize = .ok limitedCode ∧
      Target.sequelize.counts? limitedCode = some (some 7, none) := by
  have unsigned : signedCount.IsUnsigned := by
    rintro numeral long ⟨⟩
    decide
  obtain ⟨counts, -, -, agrees⟩ := count_determined unsigned
  have counted := (counts 7).mpr ⟨"007", rfl, by decide, by decide, by decide⟩
  have scanned : (Sql.ParsedStatement.query limitedQuery).NumbersScanned := by
    rintro expression (_ | ⟨_, ⟨⟩⟩) numeral long member
    obtain ⟨rfl, -⟩ : numeral = "1" ∧ long = false := by simpa [Expr.parts] using member
    exact ⟨.generic, "1", [.number "1" false], false, by decide, List.mem_singleton_self _⟩
  have lowered : selection limitedQuery = .ok limitedSelection := rfl
  have generated : HandlerTable.complete.generate {} (.select limitedSelection) .sequelize =
      .ok limitedCode := by decide +kernel
  exact ⟨unsigned, counted, lowered, scanned, generated,
    (agrees _ _ lowered).2.2 scanned _ _ _ generated⟩

end Lowering

end OrmCode
