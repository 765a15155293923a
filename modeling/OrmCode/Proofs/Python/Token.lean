import OrmCode.Proofs.Javascript.Token

/-!
# Tokens of generated Python

Words, quoted texts and brackets are cut as those of JavaScript are.  Beside them
there are operators, names of arguments, which end with an equals sign, and calls of
what has no name.
-/

namespace OrmCode

namespace Python

open Javascript (State Token Bracket continuesWord isWord)

/-- What a character between tokens begins, and the token it is. -/
def enter (character : Char) : State × List Token :=
  if ['=', '!', '<', '>'].contains character then (.word [character], [])
  else if character = '(' then (.between, [.opens (.call "")])
  else State.enter character

/-- What follows a character, and the tokens that end with it.  An equals sign is the
last character of its word. -/
def step : State → Char → State × List Token
  | .between, character => enter character
  | .word spelling, character =>
    if character = '=' then
      (.between, [.word (String.ofList (spelling ++ [character]))])
    else if continuesWord character || character == '(' then
      State.step (.word spelling) character
    else
      let (following, tokens) := enter character
      (following, .word (String.ofList spelling) :: tokens)
  | state, character => state.step character

/-- The tokens of some characters after what has been begun. -/
def lex : State → List Char → List Token
  | state, [] => state.finish
  | state, character :: rest =>
    let (following, tokens) := step state character
    tokens ++ lex following rest

def tokens (characters : List Char) : List Token :=
  lex .between characters

/-- A character that is part of no operator. -/
theorem not_operator {character : Char} (continues : continuesWord character = true) :
    ['=', '!', '<', '>'].contains character = false ∧ character ≠ '(' := by
  have refused : ∀ other : Char, continuesWord other = false → character ≠ other := by
    rintro other apart rfl
    rw [continues] at apart
    cases apart
  have equals := refused '=' (by decide)
  have exclamation := refused '!' (by decide)
  have less := refused '<' (by decide)
  have greater := refused '>' (by decide)
  refine ⟨?_, refused '(' (by decide)⟩
  simp [equals, exclamation, less, greater]

theorem step_word {character : Char} (continues : continuesWord character = true)
    (spelling : List Char) :
    step (.word spelling) character = (.word (spelling ++ [character]), []) := by
  have notEquals : character ≠ '=' := by
    rintro rfl
    revert continues
    decide
  simp [step, State.step, notEquals, continues]

theorem lex_word {more : List Char} (spelled : ∀ character ∈ more, continuesWord character = true)
    (spelling rest : List Char) :
    lex (.word spelling) (more ++ rest) = lex (.word (spelling ++ more)) rest := by
  induction more generalizing spelling with
  | nil => rw [List.nil_append, List.append_nil]
  | cons first more induction =>
      obtain ⟨here, later⟩ := List.forall_mem_cons.mp spelled
      rw [List.cons_append, lex, step_word here]
      exact (induction later (spelling ++ [first])).trans (by rw [List.append_assoc]; rfl)

/-- A word that has begun is read on from its first character. -/
theorem tokens_append {text : String} (word : isWord text = true) (rest : List Char) :
    tokens (text.toList ++ rest) = lex (.word text.toList) rest := by
  rw [isWord, Bool.and_eq_true, List.all_eq_true] at word
  obtain ⟨something, spelled⟩ := word
  cases characters : text.toList with
  | nil =>
      rw [characters] at something
      cases something
  | cons first more =>
      rw [characters] at spelled
      obtain ⟨here, later⟩ := List.forall_mem_cons.mp spelled
      obtain ⟨notOperator, notBracket⟩ := not_operator here
      have begun : step .between first = (.word [first], []) := by
        simp only [step, enter, State.enter, notOperator, notBracket, here, if_true, if_false,
          Bool.false_eq_true]
      rw [tokens, List.cons_append, lex, begun]
      exact lex_word later [first] rest

/-- Whether a character ends a word that is neither a function nor the name of an
argument. -/
def endsWord (character : Char) : Bool :=
  Javascript.endsWord character && character != '='

theorem tokens_word {text : String} (word : isWord text = true) {next : Char}
    (ends : endsWord next = true) (rest : List Char) :
    tokens (text.toList ++ next :: rest) = .word text :: tokens (next :: rest) := by
  simp only [endsWord, Javascript.endsWord, Bool.and_eq_true, Bool.not_eq_true',
    bne_iff_ne] at ends
  obtain ⟨⟨notContinued, notBracket⟩, notEquals⟩ := ends
  rw [tokens_append word, tokens, lex, lex]
  simp [step, notContinued, notBracket, notEquals]

theorem tokens_call {text : String} (word : isWord text = true) (rest : List Char) :
    tokens (text.toList ++ '(' :: rest) = .opens (.call text) :: tokens rest := by
  have ends : continuesWord '(' = false := by decide
  rw [tokens_append word, lex]
  simp [step, State.step, ends, tokens]

/-- The name of an argument is a word with its equals sign. -/
theorem tokens_argument {name : String} (word : isWord name = true) (rest : List Char) :
    tokens (name.toList ++ '=' :: rest) = .word (name ++ "=") :: tokens rest := by
  rw [tokens_append word, lex]
  simp only [step, if_true]
  rw [String.ofList_append, String.ofList_toList]
  rfl

theorem lex_text (value characters rest : List Char) :
    lex (.text value) (characters.flatMap Text.quotedCharacter ++ '\x27' :: rest) =
      .text (String.ofList (value ++ characters)) :: tokens rest := by
  induction characters generalizing value with
  | nil =>
      rw [List.flatMap_nil, List.nil_append, List.append_nil]
      rfl
  | cons first characters induction =>
      have one : ∀ following, lex (.text value) (Text.quotedCharacter first ++ following) =
          lex (.text (value ++ [first])) following := by
        intro following
        fun_cases Text.quotedCharacter first with
        | case6 notBackslash notQuote => simp [lex, step, State.step, notBackslash, notQuote]
        | _ =>
            subst_vars
            rfl
      rw [List.flatMap_cons, List.append_assoc, one, induction, List.append_assoc]
      rfl

theorem tokens_quoted (text : String) (rest : List Char) :
    tokens ((Text.quoted text).toList ++ rest) = .text text :: tokens rest := by
  have read := lex_text [] text.toList rest
  rw [List.nil_append, String.ofList_toList] at read
  rw [Text.quoted_toList, Text.quotedCharacters, List.cons_append, List.append_assoc]
  exact read

end Python

end OrmCode
