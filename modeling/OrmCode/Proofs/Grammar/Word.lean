import OrmCode.Proofs.Grammar.Operand

/-!
# A word before a sign

What a bare word is read as where nothing or a sign follows.  No type and no form goes on
with a sign, so that the word is a column unless it means something on its own.
-/

namespace OrmCode

namespace Sql

variable {Value Result : Type}

/-- The tokens that may follow an operand here: none, or a sign and what it is followed by. -/
def EndsOperand (after : List Token) : Prop :=
  ∀ token ∈ after.head?, token = .symbol "+" ∨ token = .symbol "-"

/-- A reader finds nothing that it expects, or a value with a property before some tokens. -/
def Tries (reader : Reader Value) (tokens : List Token) (property : Value → Prop)
    (after : List Token) : Prop :=
  reader.run tokens = .error .unexpected ∨
    ∃ value, property value ∧ Reads reader tokens value after

namespace Tries

variable {reader : Reader Value} {tokens middle after : List Token} {property : Value → Prop}
  {condition : Result → Prop}

theorem pure {value : Value} (holds : property value) :
    Tries (Pure.pure value) after property after :=
  .inr ⟨value, holds, Reads.pure value after⟩

theorem unexpected : Tries (Reader.unexpected) tokens property after := .inl rfl

theorem bind {next : Value → Reader Result} (first : Tries reader tokens property middle)
    (second : ∀ value, property value → Tries (next value) middle condition after) :
    Tries (reader >>= next) tokens condition after := by
  rcases first with fails | ⟨value, holds, read⟩
  · left
    rw [StateT.run_bind, fails]
    rfl
  · rcases second value holds with fails | ⟨result, holds, later⟩
    · left
      rw [StateT.run_bind, read]
      exact fails
    · exact .inr ⟨result, holds, read.bind later⟩

theorem of_reads {value : Value} (read : Reads reader tokens value middle)
    {next : Value → Reader Result} (second : Tries (next value) middle condition after) :
    Tries (reader >>= next) tokens condition after :=
  have taken : Tries reader tokens (· = value) middle := .inr ⟨value, rfl, read⟩
  taken.bind fun _ same => same ▸ second

theorem of_fails (fails : reader.run tokens = .error .unexpected) {next : Value → Reader Result} :
    Tries (reader >>= next) tokens condition after := by
  left
  rw [StateT.run_bind, fails]
  rfl

theorem fails (tries : Tries reader tokens (fun _ => False) after) :
    reader.run tokens = .error .unexpected :=
  tries.resolve_right fun ⟨_, nothing, _⟩ => nothing

/-- What can find nothing is tried in vain. -/
theorem attempt (tries : Tries reader tokens (fun _ => False) after) :
    Reads (Reader.attempt reader) tokens none tokens := by
  unfold Reads Reader.attempt
  rw [StateT.run, tries.fails]

end Tries

namespace EndsOperand

variable {after : List Token} (ends : EndsOperand after)

include ends

theorem denies {property : Token → Bool} (plus : property (.symbol "+") = false)
    (minus : property (.symbol "-") = false) : after.head?.any property = false := by
  cases first : after.head? with
  | none => rfl
  | some token =>
      rcases ends token first with rfl | rfl
      · exact plus
      · exact minus

theorem nextIs {property : Token → Bool} (plus : property (.symbol "+") = false)
    (minus : property (.symbol "-") = false) : Reads (Reader.nextIs property) after false after :=
  Reads.nextIs_iff.mpr ⟨(ends.denies plus minus).symm, rfl⟩

theorem takeIf {property : Token → Bool} (plus : property (.symbol "+") = false)
    (minus : property (.symbol "-") = false) : Reads (Reader.takeIf property) after false after :=
  Reads.takeIf_iff.mpr (.inr ⟨rfl, ends.denies plus minus, rfl⟩)

theorem keyword (word : String) : Reads (Reader.keyword word) after false after :=
  ends.takeIf rfl rfl

theorem symbol {text : String} (apart : text ≠ "+" ∧ text ≠ "-") :
    Reads (Reader.symbol text) after false after :=
  ends.takeIf (by simpa [Token.isSymbol] using apart.1.symm)
    (by simpa [Token.isSymbol] using apart.2.symm)

theorem peekSymbol {text : String} (apart : text ≠ "+" ∧ text ≠ "-") :
    Reads (Reader.peekSymbol text) after false after :=
  ends.nextIs (by simpa [Token.isSymbol] using apart.1.symm)
    (by simpa [Token.isSymbol] using apart.2.symm)

theorem keywords (word : String) (words : List String) :
    Reads (Reader.keywords (word :: words)) after false after := by
  have starts : Reader.startWith (word :: words) after = false := by
    cases after with
    | nil => rfl
    | cons token rest => rcases ends token rfl with rfl | rfl <;> rfl
  refine (Reads.rest _).bind ?_
  rw [starts]
  rfl

theorem textWhen (word : String) (reader : Reader String) :
    Reads (Reader.textWhen (Reader.keyword word) reader) after "" after :=
  (ends.keyword word).textWhen_of_denied reader

/-- No other symbol goes on here. -/
theorem expectSymbol {text : String} (apart : text ≠ "+" ∧ text ≠ "-") :
    (Reader.expectSymbol text).run after = .error .unexpected := by
  have none : Reads (Reader.symbol text) after false after := ends.symbol apart
  unfold Reads at none
  rw [Reader.expectSymbol, StateT.run_bind, none]
  rfl

theorem expectParenthesis {next : Unit → Reader Value} :
    (Reader.expectSymbol "(" >>= next).run after = .error .unexpected := by
  rw [StateT.run_bind, ends.expectSymbol (by decide)]
  rfl

theorem inParentheses (reader : Reader Value) :
    (Reader.inParentheses reader).run after = .error .unexpected :=
  ends.expectParenthesis

theorem precision : Reads Reader.precision after "" after :=
  (ends.peekSymbol (by decide)).bind rfl

end EndsOperand

namespace TypeText

open Reader

variable {grammar : Grammar} {after : List Token} (ends : EndsOperand after)

include ends

theorem reads_optionalLength : Reads optionalLength after "" after :=
  (ends.peekSymbol (by decide)).bind rfl

theorem reads_optionalScale : Reads optionalScale after "" after :=
  (ends.symbol (by decide)).bind rfl

theorem reads_characters (word : String) : Reads (characters word) after word after := by
  refine (ends.keyword _).bind (Reads.bind (ends.keywords _ _) ?_)
  refine (reads_optionalLength ends).bind ?_
  rw [String.append_empty]
  rfl

theorem preciseTime_fails (dialect : Dialect) :
    (preciseTime dialect).run after = .error .unexpected := by
  unfold preciseTime
  rw [bind_assoc]
  exact ends.expectParenthesis

theorem members_fails (word : String) (reader : Reader String) :
    (members grammar word reader).run after = .error .unexpected := by
  rw [members, StateT.run_bind, ends.inParentheses]
  rfl

theorem reads_timeZone : Reads timeZone after "" after :=
  (ends.keyword _).bind (Reads.bind (ends.keyword _) rfl)

omit ends in
/-- No known type but the one of intervals is written as that. -/
theorem eq_interval_of_lookup {word : String}
    (listed : plainTypes.lookup word = some "INTERVAL") : word = "INTERVAL" := by
  have each : ∀ pair ∈ plainTypes, pair.2 = "INTERVAL" → pair.1 = "INTERVAL" := by decide
  obtain ⟨before, after, same, -⟩ := List.lookup_eq_some_iff.mp listed
  exact each (word, "INTERVAL") (same ▸ List.mem_append_right before List.mem_cons_self) rfl

/-- Before a sign a word is a known type without arguments, or an unfinished one, or none. -/
theorem tries_simple? (token : Token) {word : String} (notInterval : word ≠ "INTERVAL") :
    Tries (simple? grammar word) (token :: after) (fun text? => ∃ text ∈ text?, text ≠ "INTERVAL")
      after ∨ Reads (simple? grammar word) (token :: after) none (token :: after) := by
  have taken : Reads (Reader.skip 1) (token :: after) () after := Reads.skip token after
  have known : ∀ {text : String}, text ≠ "INTERVAL" →
      Tries (pure (some text)) after (fun text? => ∃ text ∈ text?, text ≠ "INTERVAL") after :=
    fun other => .pure ⟨_, rfl, other⟩
  unfold simple?
  split
  · next written listed =>
      refine .inl (.of_reads taken (known ?_))
      rintro rfl
      exact notInterval (eq_interval_of_lookup listed)
  split
  · refine .inl (.of_reads taken (.of_reads ends.precision (known ?_)))
    rwa [String.append_empty]
  split
  · refine .inl (.of_reads taken (.of_reads ends.precision (.of_reads (ends.textWhen _ _)
      (known ?_))))
    rwa [String.append_empty, String.append_empty]
  split
  · refine .inl (.of_reads taken (.of_reads (reads_optionalScale ends) (known ?_)))
    rwa [String.append_empty]
  split
  · exact .inl (.of_reads taken (.of_reads (ends.textWhen _ _) (known (by decide))))
  · exact .inl (.of_reads taken (.of_reads (reads_optionalLength ends) (known (by decide))))
  · exact .inl (.of_reads taken (.of_reads (reads_optionalLength ends) (known (by decide))))
  · exact .inl (.of_reads taken (.of_reads (reads_characters ends _) (known (by decide))))
  · exact .inl (.of_reads taken (.of_reads (reads_characters ends _) (known (by decide))))
  · exact .inl (.of_reads taken (.of_reads (ends.textWhen _ _) (.of_reads ends.precision
      (known (by decide)))))
  · exact .inl (.of_reads taken (.of_reads ends.precision (.of_reads (reads_timeZone ends)
      (known (by decide)))))
  · exact .inl (.of_reads taken (.of_reads ends.precision (.of_reads (reads_timeZone ends)
      (known (by decide)))))
  · exact .inl (.of_reads taken (.of_reads ends.precision (known (by decide))))
  · exact .inl (.of_reads taken (.of_reads ends.precision (known (by decide))))
  · exact .inl (.of_reads taken (.of_fails (preciseTime_fails ends _)))
  · exact .inl (.of_reads taken (.of_fails (ends.inParentheses _)))
  · exact .inl (.of_reads taken (.of_fails (members_fails ends _ _)))
  · exact .inl (.of_reads taken (.of_fails (members_fails ends _ _)))
  · exact .inl (.of_reads taken (.of_fails (members_fails ends _ _)))
  · exact .inl (.of_reads taken (.of_fails (ends.inParentheses _)))
  · exact .inr rfl

/-- Before a sign no type goes on with the types that it is made of. -/
theorem tries_compound? (inner : Reader TypeText) (token : Token) (word : String) :
    Tries (compound? grammar inner word) (token :: after)
      (fun type? => ∃ type ∈ type?, type.text ≠ "INTERVAL") after ∨
      Reads (compound? grammar inner word) (token :: after) none (token :: after) := by
  have taken : Reads (Reader.skip 1) (token :: after) () after := Reads.skip token after
  unfold compound?
  split
  · split
    · exact .inl (.of_reads taken (.pure ⟨_, rfl, by decide⟩))
    · split
      · exact .inl (.of_reads taken (.of_fails (ends.inParentheses _)))
      · exact .inl (.of_reads taken (.of_fails (ends.expectSymbol (by decide))))
  · split
    · exact .inl (.of_reads taken (.of_fails (members_fails ends _ _)))
    · split
      · exact .inl (.of_reads taken (.of_reads (ends.symbol (by decide))
          (.pure ⟨_, rfl, by decide⟩)))
      · exact .inr rfl
  · split
    · exact .inl (.of_reads taken (.of_fails (members_fails ends _ _)))
    · exact .inr rfl
  · split
    · exact .inl (.of_reads taken (.of_fails (ends.expectSymbol (by decide))))
    · exact .inr rfl
  · split
    · exact .inl (.of_reads taken (.of_fails (members_fails ends _ _)))
    · exact .inr rfl
  · split
    · exact .inl (.of_reads taken (.of_fails (members_fails ends _ _)))
    · exact .inr rfl
  · split
    · exact .inr rfl
    · split
      · exact .inl (.of_reads taken (.of_fails (ends.inParentheses _)))
      · exact .inr rfl

theorem reads_customType (dialect : Dialect) (text : String) (quote? : Option Char) :
    ∃ name, Reads (customType dialect) (.word text quote? :: after)
      { text := name, custom := true } after := by
  have last : Reads (Reader.symbol ".") after false after := ends.symbol (by decide)
  have first : Reads Reader.name (.word text quote? :: after) ⟨text, quote?⟩ after := rfl
  have named : Reads (Reader.dottedNames (after.length + 2)) (.word text quote? :: after)
      [⟨text, quote?⟩] after := first.bind (Reads.bind last rfl)
  have qualified : ∃ names, Reads (Reader.qualifiedName dialect) (.word text quote? :: after)
      names after := ⟨_, (Reads.rest _).bind (named.bind rfl)⟩
  obtain ⟨names, qualified⟩ := qualified
  have texted : Reads (Reader.qualifiedText dialect) (.word text quote? :: after)
      (writeQualified names) after := qualified.bind rfl
  have none : Reads (Reader.symbol "(") after false after := ends.symbol (by decide)
  exact ⟨_, texted.bind (none.bind rfl)⟩

/-- Before a sign a bare word is a type of its own, or a known type that is no interval. -/
theorem tries_element (inner : Reader TypeText) {text : String}
    (notInterval : Text.capitals text ≠ "INTERVAL") :
    Tries (element grammar inner) (.word text none :: after)
      (fun type => type.custom = true ∨ type.text ≠ "INTERVAL") after := by
  obtain ⟨name, custom⟩ := reads_customType ends grammar.dialect text none
  refine .of_reads (Reads.peek? _) ?_
  rw [List.head?_cons]
  dsimp only
  split
  · next word spelled =>
      obtain ⟨-, rfl⟩ := Grammar.eq_capitals_of_keyword? spelled
      rcases tries_simple? ends (.word text none) notInterval with simple | absent
      · exact simple.bind fun text? ⟨text, found, other⟩ => by
          cases found
          exact .pure (.inr other)
      · refine .of_reads absent ?_
        rcases tries_compound? ends inner (.word text none) (Text.capitals text) with
          compound | absent
        · exact compound.bind fun type? ⟨type, found, other⟩ => by
            cases found
            exact .pure (.inr other)
        · exact .of_reads absent (.inr ⟨_, .inl rfl, custom⟩)
  · exact .inr ⟨_, .inl rfl, custom⟩

/-- Nothing opens a bracket before a sign. -/
theorem reads_brackets (type : TypeText) :
    Reads (Reader.iterate (brackets? grammar) type) after type after := by
  have none : Reads (brackets? grammar type) after none after := (ends.symbol (by decide)).bind rfl
  exact (Reads.rest _).bind (none.bind rfl)

end TypeText

namespace Grammar

open Reader

variable (grammar : Grammar) {after : List Token} (ends : EndsOperand after)

include ends

theorem tries_type {text : String} (notInterval : Text.capitals text ≠ "INTERVAL") :
    Tries grammar.type (.word text none :: after)
      (fun type => type.custom = true ∨ type.text ≠ "INTERVAL") after := by
  refine .of_reads (Reads.rest _) ?_
  have whole : Tries (TypeText.within grammar (after.length + 2)) (.word text none :: after)
      (fun type => type.custom = true ∨ type.text ≠ "INTERVAL") after :=
    (TypeText.tries_element ends _ notInterval).bind fun type known =>
      .inr ⟨type, known, TypeText.reads_brackets ends type⟩
  refine whole.bind fun type known => ?_
  split
  · exact .unexpected
  · exact .pure known

/-- No text follows here that the word could be the type of. -/
theorem reads_typedString? {text : String} (notInterval : Text.capitals text ≠ "INTERVAL") :
    Reads grammar.typedString? (.word text none :: after) none (.word text none :: after) := by
  have noText : (stringText grammar.dialect).run after = .error .unexpected := by
    cases after with
    | nil => rfl
    | cons token rest => rcases ends token rfl with rfl | rfl <;> rfl
  have fails : Tries (do
      let type ← grammar.type
      if type.custom then unexpected
      else if type.text = "INTERVAL" then grammar.interval
      else return .other (type.text ++ " " ++ betweenQuotes '\x27' (← stringText grammar.dialect)))
      (.word text none :: after) (fun _ => False) after := by
    refine (grammar.tries_type ends notInterval).bind fun type known => ?_
    split
    · exact .unexpected
    · next notCustom =>
        rw [if_neg (known.resolve_left notCustom)]
        exact .of_fails noText
  exact fails.attempt

theorem reads_plainWord (first : Name) :
    Reads (grammar.plainWord first) after (.column [first]) after := by
  refine (ends.nextIs rfl rfl).bind ?_
  rw [if_neg Bool.false_ne_true]
  have noText : Reads (onlyIf (first.text.toList.head? == some '_') introducedNext) after false
      after := by
    cases first.text.toList.head? == some '_' with
    | true => exact ends.nextIs rfl rfl
    | false => rfl
  have noArrow : Reads (onlyIf grammar.dialect.lambdaFunctions (symbol "->")) after false after :=
    (ends.symbol (by decide)).onlyIf_of_denied _
  exact noText.bind (noArrow.bind rfl)

end Grammar

end Sql

end OrmCode
