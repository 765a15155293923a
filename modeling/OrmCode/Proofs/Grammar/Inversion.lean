import OrmCode.Proofs.Grammar.Reader

/-!
# What a reader has taken

A reader that succeeded is taken apart into the steps it was made of, down to the single
tokens that it took.
-/

namespace OrmCode

namespace Sql

variable {Value Result : Type}

namespace Reads

variable {tokens rest : List Token}

theorem bind_iff {reader : Reader Value} {next : Value → Reader Result} {result : Result} :
    Reads (reader >>= next) tokens result rest ↔
      ∃ value middle, Reads reader tokens value middle ∧ Reads (next value) middle result rest := by
  unfold Reads
  rw [StateT.run_bind]
  cases read : reader.run tokens with
  | error failure => exact ⟨nofun, nofun⟩
  | ok found =>
      obtain ⟨value, middle⟩ := found
      constructor
      · exact fun later => ⟨value, middle, rfl, later⟩
      · rintro ⟨_, _, ⟨⟩, later⟩
        exact later

theorem pure_iff {value found : Value} :
    Reads (Pure.pure value) tokens found rest ↔ found = value ∧ rest = tokens := by
  constructor
  · rintro ⟨⟩
    exact ⟨rfl, rfl⟩
  · rintro ⟨rfl, rfl⟩
    exact Reads.pure _ _

theorem unique {reader : Reader Value} {value other : Value} {left : List Token}
    (read : Reads reader tokens value rest) (again : Reads reader tokens other left) :
    value = other ∧ rest = left :=
  Prod.mk.inj (Except.ok.inj (read.symm.trans again))

theorem rest_iff {found : List Token} :
    Reads Reader.rest tokens found rest ↔ found = tokens ∧ rest = tokens := by
  constructor
  · rintro ⟨⟩
    exact ⟨rfl, rfl⟩
  · rintro ⟨rfl, rfl⟩
    exact Reads.rest _

theorem peek?_iff {found : Option Token} :
    Reads Reader.peek? tokens found rest ↔ found = tokens.head? ∧ rest = tokens := by
  constructor
  · rintro ⟨⟩
    exact ⟨rfl, rfl⟩
  · rintro ⟨rfl, rfl⟩
    exact Reads.peek? _

theorem next_iff {token : Token} :
    Reads Reader.next tokens token rest ↔ tokens = token :: rest := by
  constructor
  · intro read
    cases tokens with
    | nil => cases read
    | cons first others =>
        cases read
        rfl
  · rintro rfl
    rfl

theorem nextIs_iff {property : Token → Bool} {answer : Bool} :
    Reads (Reader.nextIs property) tokens answer rest ↔
      answer = tokens.head?.any property ∧ rest = tokens := by
  constructor
  · rintro ⟨⟩
    exact ⟨rfl, rfl⟩
  · rintro ⟨rfl, rfl⟩
    rfl

theorem skip_one_iff {answer : Unit} :
    Reads (Reader.skip 1) tokens answer rest ↔ rest = tokens.tail := by
  rw [← List.drop_one]
  constructor
  · rintro ⟨⟩
    rfl
  · rintro rfl
    rfl

theorem takeIf_iff {property : Token → Bool} {answer : Bool} :
    Reads (Reader.takeIf property) tokens answer rest ↔
      (answer = true ∧ ∃ token, property token = true ∧ tokens = token :: rest) ∨
        (answer = false ∧ tokens.head?.any property = false ∧ rest = tokens) := by
  rw [Reader.takeIf, bind_iff]
  simp only [nextIs_iff]
  constructor
  · rintro ⟨_, _, ⟨rfl, rfl⟩, read⟩
    split at read
    · next holds =>
        obtain ⟨token, first, holds⟩ := (Option.any_eq_true _ _).mp holds
        obtain ⟨others, rfl⟩ := List.head?_eq_some_iff.mp first
        rw [bind_iff] at read
        simp only [skip_one_iff, pure_iff, List.tail_cons] at read
        obtain ⟨_, _, rfl, rfl, rfl⟩ := read
        exact .inl ⟨rfl, token, holds, rfl⟩
    · next fails =>
        obtain ⟨rfl, rfl⟩ := pure_iff.mp read
        exact .inr ⟨rfl, Bool.eq_false_iff.mpr fails, rfl⟩
  · rintro (⟨rfl, token, holds, rfl⟩ | ⟨rfl, fails, rfl⟩)
    · refine ⟨_, _, ⟨rfl, rfl⟩, ?_⟩
      rw [List.head?_cons, Option.any_some, if_pos holds]
      rfl
    · refine ⟨_, _, ⟨rfl, rfl⟩, ?_⟩
      rw [fails]
      rfl

theorem symbol_iff {text : String} {answer : Bool} :
    Reads (Reader.symbol text) tokens answer rest ↔
      (answer = true ∧ tokens = .symbol text :: rest) ∨
        (answer = false ∧ tokens.head?.any (Token.isSymbol text) = false ∧ rest = tokens) := by
  rw [Reader.symbol, takeIf_iff]
  have spelled : ∀ token : Token, token.isSymbol text = true ↔ token = .symbol text := by
    intro token
    cases token <;> simp [Token.isSymbol]
  simp only [spelled, exists_eq_left]

theorem expectSymbol_iff {text : String} {answer : Unit} :
    Reads (Reader.expectSymbol text) tokens answer rest ↔ tokens = .symbol text :: rest := by
  rw [Reader.expectSymbol, bind_iff]
  constructor
  · rintro ⟨found, middle, asked, read⟩
    rcases symbol_iff.mp asked with ⟨rfl, taken⟩ | ⟨rfl, -⟩
    · rw [if_pos rfl, pure_iff] at read
      rw [taken, read.2]
    · rw [if_neg Bool.false_ne_true] at read
      cases read
  · rintro rfl
    exact ⟨true, rest, symbol_iff.mpr (.inl ⟨rfl, rfl⟩), pure_iff.mpr ⟨rfl, rfl⟩⟩

/-- A question that is denied takes nothing. -/
theorem eq_of_denied {allowed : Bool} {property : Token → Bool}
    (read : Reads (Reader.onlyIf allowed (Reader.takeIf property)) tokens false rest) :
    rest = tokens := by
  cases allowed with
  | true =>
      rcases takeIf_iff.mp read with ⟨answer, -⟩ | ⟨-, -, same⟩
      · cases answer
      · exact same
  | false => exact (pure_iff.mp read).2

/-- A look at the next token takes nothing. -/
theorem eq_of_asked {allowed answer : Bool} {property : Token → Bool}
    (read : Reads (Reader.onlyIf allowed (Reader.nextIs property)) tokens answer rest) :
    rest = tokens := by
  cases allowed with
  | true => exact (nextIs_iff.mp read).2
  | false => exact (pure_iff.mp read).2

theorem eq_of_oneOf? {words : List String}
    (read : Reads (Reader.oneOf? words) tokens none rest) : rest = tokens := by
  rw [Reader.oneOf?, bind_iff] at read
  simp only [peek?_iff] at read
  obtain ⟨_, _, ⟨rfl, rfl⟩, read⟩ := read
  split at read
  · rw [bind_iff] at read
    simp only [pure_iff] at read
    obtain ⟨_, _, -, ⟨⟩, -⟩ := read
  · exact (pure_iff.mp read).2

/-- What is tried without success takes nothing. -/
theorem eq_of_attempt {reader : Reader Value}
    (read : Reads (Reader.attempt reader) tokens none rest) : rest = tokens := by
  unfold Reads Reader.attempt at read
  rw [StateT.run] at read
  split at read <;> cases read
  rfl

theorem of_attempt {reader : Reader Value} {value : Value}
    (read : Reads (Reader.attempt reader) tokens (some value) rest) :
    Reads reader tokens value rest := by
  unfold Reads Reader.attempt at *
  rw [StateT.run] at read
  split at read
  · next found =>
      cases read
      exact found
  · cases read
  · cases read

/-- What is changed as long as possible is left as it was or is the result of the last change. -/
theorem cases_of_iterateWithin {change : Value → Reader (Option Value)} {fuel : Nat}
    {value result : Value}
    (read : Reads (Reader.iterateWithin change fuel value) tokens result rest)
    (stops : ∀ {value tokens rest}, Reads (change value) tokens none rest → rest = tokens) :
    (result = value ∧ rest = tokens) ∨
      ∃ last middle, ((last = value ∧ middle = tokens) ∨
          ∃ before start, Reads (change before) start (some last) middle) ∧
        Reads (change last) middle (some result) rest := by
  induction fuel generalizing value tokens with
  | zero => exact .inl (pure_iff.mp read)
  | succ fuel induction =>
      rw [Reader.iterateWithin, bind_iff] at read
      obtain ⟨changed?, middle, changed, read⟩ := read
      cases changed? with
      | none =>
          obtain ⟨rfl, rfl⟩ := pure_iff.mp read
          exact .inl ⟨rfl, stops changed⟩
      | some next =>
          right
          rcases induction read with ⟨rfl, rfl⟩ | ⟨last, start, ⟨rfl, rfl⟩ | before, later⟩
          · exact ⟨value, tokens, .inl ⟨rfl, rfl⟩, changed⟩
          · exact ⟨last, start, .inr ⟨value, tokens, changed⟩, later⟩
          · exact ⟨last, start, .inr before, later⟩

end Reads

/-- A reader that succeeds yields values with a property only. -/
def Yields (reader : Reader Value) (property : Value → Prop) : Prop :=
  ∀ tokens value rest, Reads reader tokens value rest → property value

namespace Yields

variable {property : Value → Prop} {condition : Result → Prop}

theorem pure {value : Value} (holds : property value) : Yields (Pure.pure value) property := by
  rintro _ _ _ ⟨⟩
  exact holds

theorem unexpected : Yields (Reader.unexpected) property := nofun

theorem bind {reader : Reader Value} {next : Value → Reader Result}
    (each : ∀ value, Yields (next value) condition) : Yields (reader >>= next) condition := by
  intro tokens result rest read
  obtain ⟨value, middle, -, later⟩ := Reads.bind_iff.mp read
  exact each value middle result rest later

theorem bind_of {reader : Reader Value} (first : Yields reader property)
    {next : Value → Reader Result}
    (each : ∀ value, property value → Yields (next value) condition) :
    Yields (reader >>= next) condition := by
  intro tokens result rest read
  obtain ⟨value, middle, here, later⟩ := Reads.bind_iff.mp read
  exact each value (first tokens value middle here) middle result rest later

/-- A reader that is tried yields what it yields, or nothing. -/
theorem attempt {reader : Reader Value} (yields : Yields reader property) :
    Yields (Reader.attempt reader) fun value? => ∀ value ∈ value?, property value := by
  rintro tokens _ rest read value ⟨⟩
  exact yields tokens value rest (Reads.of_attempt read)

end Yields

end Sql

end OrmCode
