import OrmCode.Text.Identifier

/-!
# Tokens of generated JavaScript

Generated code consists of words, quoted texts and brackets.  It is cut into these
character by character; blanks, commas, colons and semicolons only separate.
-/

namespace OrmCode

namespace Javascript

/-- A character of a name, of a path of names or of a number. -/
def continuesWord (character : Char) : Bool :=
  Text.continuesIdentifier character || ['.', '+', '-'].contains character

/-- What a pair of brackets encloses. -/
inductive Bracket
  | array
  | object
  | call (function : String)
  deriving DecidableEq

inductive Token
  | word (spelling : String)
  | text (value : String)
  | opens (bracket : Bracket)
  | closes (sign : Char)
  | unfinished
  deriving DecidableEq

/-- What has been begun where the next character stands. -/
inductive State
  | between
  | word (spelling : List Char)
  | text (value : List Char)
  | escape (value : List Char)

def unescaped : Char → Char
  | 'n' => '\n'
  | 'r' => '\x0d'
  | 't' => '\t'
  | character => character

namespace State

/-- What a character between tokens begins, and the token it is. -/
def enter (character : Char) : State × List Token :=
  if continuesWord character then (word [character], [])
  else if character = '\x27' then (text [], [])
  else if character = '[' then (between, [.opens .array])
  else if character = '\x7b' then (between, [.opens .object])
  else if [']', '\x7d', ')'].contains character then (between, [.closes character])
  else (between, [])

/-- What follows a character, and the tokens that end with it. -/
def step : State → Char → State × List Token
  | between, character => enter character
  | word spelling, character =>
    if continuesWord character then (word (spelling ++ [character]), [])
    else if character = '(' then (between, [.opens (.call (String.ofList spelling))])
    else
      let (following, tokens) := enter character
      (following, .word (String.ofList spelling) :: tokens)
  | text value, character =>
    if character = '\x5c' then (escape value, [])
    else if character = '\x27' then (between, [.text (String.ofList value)])
    else (text (value ++ [character]), [])
  | escape value, character => (text (value ++ [unescaped character]), [])

/-- The tokens that end with the code. -/
def finish : State → List Token
  | between => []
  | word spelling => [.word (String.ofList spelling)]
  | text _ | escape _ => [.unfinished]

end State

/-- The tokens of some characters after what has been begun. -/
def lex : State → List Char → List Token
  | state, [] => state.finish
  | state, character :: rest =>
    let (following, tokens) := state.step character
    tokens ++ lex following rest

def tokens (characters : List Char) : List Token :=
  lex .between characters

theorem lex_word {more : List Char} (spelled : ∀ character ∈ more, continuesWord character = true)
    (spelling rest : List Char) :
    lex (.word spelling) (more ++ rest) = lex (.word (spelling ++ more)) rest := by
  induction more generalizing spelling with
  | nil => rw [List.nil_append, List.append_nil]
  | cons first more induction =>
      obtain ⟨here, later⟩ := List.forall_mem_cons.mp spelled
      rw [List.cons_append, lex, State.step, if_pos here]
      exact (induction later (spelling ++ [first])).trans (by rw [List.append_assoc]; rfl)

/-- A word that has begun is read on from its first character. -/
theorem tokens_append {spelling : List Char} (something : spelling ≠ [])
    (spelled : ∀ character ∈ spelling, continuesWord character = true) (rest : List Char) :
    tokens (spelling ++ rest) = lex (.word spelling) rest := by
  cases spelling with
  | nil => exact absurd rfl something
  | cons first more =>
      obtain ⟨here, later⟩ := List.forall_mem_cons.mp spelled
      rw [tokens, List.cons_append, lex, State.step, State.enter, if_pos here]
      exact lex_word later [first] rest

/-- Whether a character ends a word that is no function. -/
def endsWord (character : Char) : Bool :=
  !continuesWord character && character != '('

def isWord (text : String) : Bool :=
  !text.toList.isEmpty && text.toList.all continuesWord

theorem isWord_append {first second : String} (leading : first.toList.all continuesWord = true)
    (word : isWord second = true) : isWord (first ++ second) = true := by
  rw [isWord, Bool.and_eq_true] at word
  rw [isWord, String.toList_append, List.all_append, leading, word.2]
  simpa using fun _ => by simpa using word.1

theorem tokens_word {text : String} (word : isWord text = true) {next : Char}
    (ends : endsWord next = true) (rest : List Char) :
    tokens (text.toList ++ next :: rest) = .word text :: tokens (next :: rest) := by
  rw [endsWord, Bool.and_eq_true, Bool.not_eq_true', bne_iff_ne] at ends
  rw [isWord, Bool.and_eq_true, List.all_eq_true] at word
  rw [tokens_append (by simpa using word.1) word.2, tokens, lex, lex]
  simp [State.step, ends.1, ends.2]

theorem tokens_call {text : String} (word : isWord text = true) (rest : List Char) :
    tokens (text.toList ++ '(' :: rest) = .opens (.call text) :: tokens rest := by
  have ends : continuesWord '(' = false := by decide
  rw [isWord, Bool.and_eq_true, List.all_eq_true] at word
  rw [tokens_append (by simpa using word.1) word.2, lex]
  simp [State.step, ends, tokens]

theorem lex_text (value characters rest : List Char) :
    lex (.text value) (characters.flatMap Text.quotedCharacter ++ '\x27' :: rest) =
      .text (String.ofList (value ++ characters)) :: tokens rest := by
  induction characters generalizing value with
  | nil =>
      rw [List.flatMap_nil, List.nil_append, List.append_nil]
      rfl
  | cons first characters induction =>
      have one : ∀ following, lex (.text value) (Text.quotedCharacter first ++ following) =
          lex (.text (value ++ [first])) following := by
        intro following
        fun_cases Text.quotedCharacter first with
        | case6 notBackslash notQuote => simp [lex, State.step, notBackslash, notQuote]
        | _ =>
            subst_vars
            rfl
      rw [List.flatMap_cons, List.append_assoc, one, induction, List.append_assoc]
      rfl

/-- A quoted text is read as the text that it stands for. -/
theorem tokens_quoted (value rest : List Char) :
    tokens (Text.quotedCharacters value ++ rest) = .text (String.ofList value) :: tokens rest := by
  have read := lex_text [] value rest
  rw [Text.quotedCharacters, List.cons_append, List.append_assoc]
  exact read

theorem quoted_injective : Function.Injective Text.quoted := by
  intro first second same
  have characters : Text.quotedCharacters first.toList = Text.quotedCharacters second.toList := by
    rw [← Text.quoted_toList, ← Text.quoted_toList, same]
  have read := tokens_quoted first.toList []
  rw [characters, tokens_quoted] at read
  simpa using read.symm

theorem isIdentifier_quoted (name : String) : Text.isIdentifier (Text.quoted name) = false := by
  rw [Text.isIdentifier, Text.quoted_toList]
  rfl

/-- Different columns have different keys. -/
theorem javascriptKey_injective : Function.Injective Text.javascriptKey := by
  intro first second same
  unfold Text.javascriptKey at same
  by_cases bare : Text.isIdentifier first = true <;>
    by_cases otherBare : Text.isIdentifier second = true
  · rwa [if_pos bare, if_pos otherBare] at same
  · rw [if_pos bare, if_neg otherBare] at same
    rw [same, isIdentifier_quoted] at bare
    cases bare
  · rw [if_neg bare, if_pos otherBare] at same
    rw [← same, isIdentifier_quoted] at otherBare
    cases otherBare
  · rw [if_neg bare, if_neg otherBare] at same
    exact quoted_injective same

end Javascript

end OrmCode
