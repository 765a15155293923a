import OrmCode.Proofs.Grammar.Held
import OrmCode.Proofs.Grammar.Sign

/-!
# Updates of one column

An update that sets one column of a table to a value is read from its tokens, whatever the
value is, if nothing that counts is left behind it.
-/

namespace OrmCode

namespace Sql

open Grammar

/-- The update of one column of a table, before the new value. -/
def updateTokens (value : List Token) : List Token :=
  .word "UPDATE" none :: .word "t" none :: .word "SET" none :: .word "c" none :: .symbol "=" ::
    value

/-- The update of one column to a value. -/
def singleUpdate (value : Expr) : UpdateStatement where
  conflict := false
  table := { relation := .named [⟨"t", none⟩] "" none "" "" }
  assignments := [{ target := .column [⟨"c", none⟩], value }]
  hasFrom := false
  condition? := none
  returning := false

set_option maxRecDepth 4000 in
theorem keyword?_set : (Token.word "SET" none).keyword? = some "SET" :=
  keyword?_of_getElem? 638 rfl (by decide)

set_option maxRecDepth 4000 in
theorem keyword?_update : (Token.word "UPDATE" none).keyword? = some "UPDATE" :=
  keyword?_of_getElem? 764 rfl (by decide)

section Table

variable {dialect : Dialect} (depth : Nat) (rest : List Token)

/-- The word SET names no table anew. -/
theorem reads_tableAlias? :
    Reads (dialect.grammar depth).tableAlias? (.word "SET" none :: rest) none
      (.word "SET" none :: rest) := by
  have noAs : Reads (Reader.keyword "AS") (.word "SET" none :: rest) false
      (.word "SET" none :: rest) := rfl
  have noAlias : Reads (alias? notTableAliases) (.word "SET" none :: rest) none
      (.word "SET" none :: rest) := by
    refine noAs.bind ((Reads.peek? _).bind ?_)
    rw [List.head?_cons]
    dsimp only
    rw [keyword?_set]
    rfl
  exact noAlias.bind rfl

theorem reads_namedTable :
    Reads (dialect.grammar depth).namedTable (.word "t" none :: .word "SET" none :: rest)
      (.named [⟨"t", none⟩] "" none "" "") (.word "SET" none :: rest) := by
  have named : Reads (Reader.qualifiedName dialect) (.word "t" none :: .word "SET" none :: rest)
      [⟨"t", none⟩] (.word "SET" none :: rest) := by
    cases dialect <;> rfl
  have noKeyword : ∀ {word}, (Token.word "SET" none).isKeyword word = false →
      Reads (Reader.keyword word) (.word "SET" none :: rest) false (.word "SET" none :: rest) :=
    fun apart => Reads.keyword_of_ne apart rest
  have noPivot : Reads ((dialect.grammar depth).turned? (.named [⟨"t", none⟩] "" none "" ""))
      (.word "SET" none :: rest) none (.word "SET" none :: rest) :=
    (Reads.oneOf?_of_ne (by decide) rest).bind rfl
  have noHint : Reads (keywordThen "WITH" "(") (.word "SET" none :: rest) false
      (.word "SET" none :: rest) := rfl
  refine named.bind ?_
  refine (((noKeyword (by decide)).onlyIf_of_denied _).textWhen_of_denied _).bind ?_
  refine (((Reads.keywords_of_ne (by decide) _ rest).onlyIf_of_denied _).textWhen_of_denied _).bind
    ?_
  refine ((Reads.symbol_of_ne rfl rest).textWhen_of_denied _).bind ?_
  refine ((Reads.keywords_of_ne (by decide) _ rest).textWhen_of_denied _).bind ?_
  refine (reads_tableAlias? depth rest).bind ((noHint.textWhen_of_denied _).bind ?_)
  exact (Reads.rest _).bind (noPivot.bind rfl)

/-- A table is named before the word SET. -/
theorem reads_reference :
    Reads (dialect.grammar depth).readReference (.word "t" none :: .word "SET" none :: rest)
      { relation := .named [⟨"t", none⟩] "" none "" "" } (.word "SET" none :: rest) := by
  have factor : Reads (dialect.grammar depth).tableFactor
      (.word "t" none :: .word "SET" none :: rest) (.named [⟨"t", none⟩] "" none "" "")
      (.word "SET" none :: rest) := by
    have noKeyword : ∀ {word}, (Token.word "t" none).isKeyword word = false →
        Reads (Reader.keyword word) (.word "t" none :: .word "SET" none :: rest) false
          (.word "t" none :: .word "SET" none :: rest) :=
      fun apart => Reads.keyword_of_ne apart _
    have second : Reads Reader.peekSecond? (.word "t" none :: .word "SET" none :: rest)
        (some (.word "SET" none)) (.word "t" none :: .word "SET" none :: rest) := rfl
    have noValues : Reads (Reader.peekKeyword "VALUES") (.word "t" none :: .word "SET" none :: rest)
        false (.word "t" none :: .word "SET" none :: rest) := rfl
    refine (noKeyword (by decide)).bind (Reads.bind (noKeyword (by decide)) ?_)
    refine (Reads.symbol_of_ne rfl _).bind ((noValues.onlyIf_of_denied _).bind (second.bind ?_))
    refine Reads.bind ((noKeyword (by decide)).onlyIf_of_denied _) ?_
    refine (Reads.nextIs _ _ _).bind (second.bind ?_)
    exact reads_namedTable depth rest
  have noJoin : Reads (dialect.grammar depth).join? (.word "SET" none :: rest) none
      (.word "SET" none :: rest) := rfl
  exact factor.bind (Reads.bind ((Reads.rest _).bind (noJoin.bind rfl)) rfl)

end Table

section Statement

variable {dialect : Dialect} {depth : Nat} {tokens rest : List Token} {value : Expr}

theorem reads_setClause_iff {clause : SetClause} :
    Reads (dialect.grammar depth).setClause (.word "c" none :: .symbol "=" :: tokens) clause rest ↔
      ∃ value, clause = { target := .column [⟨"c", none⟩], value } ∧
        Reads (dialect.grammar depth).expression tokens value rest := by
  have noTuple := Reads.symbol_of_ne (rfl : (Token.word "c" none).isSymbol "(" = false)
    (.symbol "=" :: tokens)
  have column : Reads (Reader.qualifiedName dialect) (.word "c" none :: .symbol "=" :: tokens)
      [⟨"c", none⟩] (.symbol "=" :: tokens) := by
    cases dialect <;> rfl
  have equals := Reads.expectSymbol "=" tokens
  constructor
  · intro read
    rw [setClause, Reads.bind_iff] at read
    obtain ⟨_, _, asked, read⟩ := read
    obtain ⟨rfl, rfl⟩ := noTuple.unique asked
    rw [if_neg Bool.false_ne_true, Reads.bind_iff] at read
    obtain ⟨_, _, named, read⟩ := read
    obtain ⟨rfl, rfl⟩ := column.unique named
    rw [pure_bind, Reads.bind_iff] at read
    obtain ⟨_, _, asked, read⟩ := read
    obtain ⟨-, rfl⟩ := equals.unique asked
    rw [Reads.bind_iff] at read
    obtain ⟨value, _, read, same⟩ := read
    obtain ⟨rfl, rfl⟩ := Reads.pure_iff.mp same
    exact ⟨value, rfl, read⟩
  · rintro ⟨value, rfl, read⟩
    refine noTuple.bind (Reads.bind column ((Reads.pure _ _).bind ?_))
    exact equals.bind (Reads.bind read rfl)

/-- A statement that starts with UPDATE changes rows. -/
theorem reads_updateTokens_iff {parsed : ParsedStatement} :
    Reads (dialect.grammar depth).readStatement (updateTokens tokens) parsed rest ↔
      ∃ updated, parsed = .update updated ∧ Reads (dialect.grammar depth).update
        (.word "t" none :: .word "SET" none :: .word "c" none :: .symbol "=" :: tokens)
        updated rest := by
  rw [readStatement, Reads.bind_iff]
  simp only [Reads.peek?_iff]
  constructor
  · rintro ⟨_, _, ⟨rfl, rfl⟩, read⟩
    rw [updateTokens, List.head?_cons, Option.bind_some, keyword?_update] at read
    replace read : Reads (do
      Reader.skip 1
      return ParsedStatement.update (← (dialect.grammar depth).update)) _ parsed rest := read
    rw [Reads.bind_iff] at read
    simp only [Reads.skip_one_iff] at read
    obtain ⟨_, _, rfl, read⟩ := read
    rw [Reads.bind_iff] at read
    simp only [Reads.pure_iff] at read
    obtain ⟨updated, _, read, rfl, rfl⟩ := read
    exact ⟨updated, rfl, read⟩
  · rintro ⟨updated, rfl, read⟩
    refine ⟨_, _, ⟨rfl, rfl⟩, ?_⟩
    rw [updateTokens, List.head?_cons, Option.bind_some, keyword?_update]
    exact (Reads.skip _ _).bind (Reads.bind read rfl)

theorem reads_conflictAction (rest : List Token) :
    Reads conflictAction (.word "t" none :: rest) false (.word "t" none :: rest) := rfl

theorem reads_expectSet (rest : List Token) :
    Reads (Reader.expectKeyword "SET") (.word "SET" none :: rest) () rest := rfl

/-- The first value that an update sets is the expression behind the equals sign. -/
theorem exists_of_reads_update {updated : UpdateStatement}
    (read : Reads (dialect.grammar depth).update
      (.word "t" none :: .word "SET" none :: .word "c" none :: .symbol "=" :: tokens)
      updated rest) :
    ∃ value middle others, Reads (dialect.grammar depth).expression tokens value middle ∧
      updated.assignments = { target := .column [⟨"c", none⟩], value } :: others := by
  rw [update, Reads.bind_iff] at read
  obtain ⟨_, _, asked, read⟩ := read
  obtain ⟨-, rfl⟩ := (reads_conflictAction _).unique asked
  rw [Reads.bind_iff] at read
  obtain ⟨_, _, asked, read⟩ := read
  obtain ⟨-, rfl⟩ := (reads_reference depth _).unique asked
  rw [Reads.bind_iff] at read
  obtain ⟨_, _, asked, read⟩ := read
  obtain ⟨-, rfl⟩ := (reads_expectSet _).unique asked
  rw [Reads.bind_iff] at read
  obtain ⟨assignments, after, listed, read⟩ := read
  obtain ⟨clause, others, middle, rfl, first, -⟩ := reads_first_of_separated listed
  obtain ⟨value, rfl, valueRead⟩ := reads_setClause_iff.mp first
  refine ⟨value, middle, others, valueRead, ?_⟩
  -- The clauses behind the assignments leave these as they are.
  refine (?_ : Yields _ fun updated : UpdateStatement => updated.assignments = _) _ _ _ read
  refine .bind fun fromWord => ?_
  dsimp only
  split
  · exact .bind fun _ => .bind fun _ => .bind fun _ => .pure rfl
  · exact .bind fun _ => .bind fun _ => .pure rfl

/-- A value behind which nothing that counts is left is all that an update sets. -/
theorem reads_singleUpdate (read : Reads (dialect.grammar depth).expression tokens value rest)
    (nothing : held rest = 0) :
    Reads (dialect.grammar depth).update
      (.word "t" none :: .word "SET" none :: .word "c" none :: .symbol "=" :: tokens)
      (singleUpdate value) rest := by
  have clause := reads_setClause_iff.mpr ⟨value, rfl, read⟩
  have noComma : Reads (Reader.symbol ",") rest false rest :=
    Reads.symbol_iff.mpr (.inr ⟨rfl, isSymbol_of_held nothing ",", rfl⟩)
  have only : Reads ((dialect.grammar depth).list (dialect.grammar depth).setClause)
      (.word "c" none :: .symbol "=" :: tokens)
      [{ target := .column [⟨"c", none⟩], value }] rest :=
    (Reads.rest _).bind (clause.bind (noComma.bind rfl))
  have noKeyword : ∀ {word : String}, IsSolid word.toList → 0 < word.toList.length →
      Reads (Reader.keyword word) rest false rest := fun solid something =>
    Reads.takeIf_iff.mpr (.inr ⟨rfl, isKeyword_of_held nothing solid something, rfl⟩)
  have noFrom : Reads (Reader.keyword "FROM") rest false rest := noKeyword (by decide) (by decide)
  have noWhere : Reads (Reader.keyword "WHERE") rest false rest :=
    noKeyword (by decide) (by decide)
  have noReturning : Reads (Reader.keyword "RETURNING") rest false rest :=
    noKeyword (by decide) (by decide)
  refine (reads_conflictAction _).bind ((reads_reference depth _).bind ?_)
  refine (reads_expectSet _).bind (only.bind (noFrom.bind ?_))
  exact Reads.bind (noWhere.bind rfl) (Reads.bind (noReturning.bind rfl) rfl)

end Statement

section Text

variable {dialect : Dialect} {text : String} {tokens rest : List Token}

theorem reads_noSeparators (other : tokens.head?.any (Token.isSymbol ";") = false) :
    Reads (Reader.many (Reader.whenRead (Reader.symbol ";") (pure ()))) tokens [] tokens := by
  have noSemicolon : Reads (Reader.symbol ";") tokens false tokens :=
    Reads.symbol_iff.mpr (.inr ⟨rfl, other, rfl⟩)
  exact (Reads.rest _).bind (Reads.bind (noSemicolon.bind rfl) rfl)

/-- No statement may follow another without a semicolon. -/
theorem eq_nil_of_statementsWithin {statement : Reader ParsedStatement} {fuel : Nat}
    {others : List ParsedStatement}
    (read : Reads (Grammar.statementsWithin statement fuel false) tokens others rest)
    (nothing : held tokens = 0) : tokens = [] := by
  cases fuel with
  | zero => cases read
  | succ fuel =>
      rw [Grammar.statementsWithin, Reads.bind_iff] at read
      obtain ⟨_, _, asked, read⟩ := read
      obtain ⟨rfl, rfl⟩ := (reads_noSeparators (isSymbol_of_held nothing ";")).unique asked
      rw [Reads.bind_iff] at read
      simp only [Reads.rest_iff] at read
      obtain ⟨_, left, ⟨rfl, rfl⟩, read⟩ := read
      cases left with
      | nil => rfl
      | cons token later =>
          exfalso
          rw [List.isEmpty_cons, if_neg Bool.false_ne_true, Reads.bind_iff] at read
          obtain ⟨_, _, asked, read⟩ := read
          obtain ⟨rfl, -⟩ := Reads.nextIs_iff.mp asked
          rw [isKeyword_of_held nothing (by decide) (by decide)] at read
          cases read

/-- A text that is one statement is read as it from its first token on.  What is left of its
tokens is nothing, or holds a character that counts. -/
theorem reads_of_parse? {word : String} {quote? : Option Char} {parsed : ParsedStatement}
    (scanned : scan dialect text = some (.word word quote? :: tokens))
    (found : parse? dialect text = some [parsed]) :
    ∃ rest, Reads (statement dialect) (.word word quote? :: tokens) parsed rest ∧
      (held rest = 0 → rest = []) := by
  rw [parse?, scanned, Option.bind_some] at found
  split at found
  · next statements last run =>
      obtain rfl := Option.some.inj found
      replace run : Reads (Grammar.statements (statement dialect)) (.word word quote? :: tokens)
        [parsed] last := run
      rw [Grammar.statements, Reads.bind_iff] at run
      simp only [Reads.rest_iff] at run
      obtain ⟨_, _, ⟨rfl, rfl⟩, run⟩ := run
      rw [Grammar.statementsWithin, Reads.bind_iff] at run
      obtain ⟨_, _, asked, run⟩ := run
      obtain ⟨rfl, rfl⟩ := (reads_noSeparators rfl).unique asked
      rw [Reads.bind_iff] at run
      simp only [Reads.rest_iff] at run
      obtain ⟨_, _, ⟨rfl, rfl⟩, run⟩ := run
      simp only [List.isEmpty_cons, Bool.false_eq_true, if_false, Bool.true_or, Bool.not_true,
        Reader.onlyIf, pure_bind, if_true] at run
      rw [Reads.bind_iff] at run
      obtain ⟨first, rest, read, run⟩ := run
      rw [Reads.bind_iff] at run
      obtain ⟨others, _, later, same⟩ := run
      obtain ⟨same, -⟩ := Reads.pure_iff.mp same
      obtain ⟨rfl, -⟩ := List.cons.inj same
      exact ⟨rest, read, eq_nil_of_statementsWithin later⟩
  · cases found

end Text

end Sql

end OrmCode
