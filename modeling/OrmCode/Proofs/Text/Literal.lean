import OrmCode.Proofs.Text.Identifier

/-!
# Reading quoted literals and keys

A literal between single quotes ends at its closing quote and stands for the text that it was
made of, whatever follows.  So does the key of an object before its colon, quoted or not.
-/

namespace OrmCode

namespace Text

/-- The five escapes: the sign behind the backslash and the character that it stands for. -/
def escapes : List (Char × Char) :=
  [('\x5c', '\x5c'), ('\x27', '\x27'), ('n', '\n'), ('r', '\x0d'), ('t', '\t')]

/-- A language that knows the five escapes.  It may know others, and names may have more
characters than those of plain identifiers, but no colon. -/
structure LiteralReader where
  /-- What a sign behind a backslash stands for, if this is an escape. -/
  meant? : Char → Option Char
  /-- Whether a character may stand for itself between quotes. -/
  staysPlain : Char → Bool
  startsName : Char → Bool
  continuesName : Char → Bool
  meant?_of_mem : ∀ entry ∈ escapes, meant? entry.1 = some entry.2
  staysPlain_of_not_mem : ∀ character ∉ escapes.map Prod.snd, staysPlain character = true
  startsName_of_starts : ∀ character, startsIdentifier character = true →
    startsName character = true
  continuesName_of_continues : ∀ character, continuesIdentifier character = true →
    continuesName character = true
  continuesName_colon : continuesName ':' = false

namespace LiteralReader

/-- The reader that knows no other escape, wants every character with an escape escaped, and
takes plain identifiers alone for names. -/
def strict : LiteralReader where
  meant? sign := escapes.lookup sign
  staysPlain character := !(escapes.map Prod.snd).contains character
  startsName := startsIdentifier
  continuesName := continuesIdentifier
  meant?_of_mem := by decide
  staysPlain_of_not_mem := by simp
  startsName_of_starts := fun _ starts => starts
  continuesName_of_continues := fun _ continues => continues
  continuesName_colon := by decide

variable (reader : LiteralReader)

/-- The characters of a literal behind its opening quote, and what follows the closing one. -/
def content? : List Char → Option (List Char × List Char)
  | [] => none
  | '\x27' :: rest => some ([], rest)
  | ['\x5c'] => none
  | '\x5c' :: sign :: rest => do
    let meant ← reader.meant? sign
    let (value, following) ← content? rest
    return (meant :: value, following)
  | character :: rest =>
    if reader.staysPlain character then do
      let (value, following) ← content? rest
      return (character :: value, following)
    else none

def quoted? : List Char → Option (List Char × List Char)
  | '\x27' :: rest => reader.content? rest
  | _ => none

/-- A name without quotes, up to the first character that belongs to no name. -/
def name? : List Char → Option (List Char × List Char)
  | [] => none
  | first :: rest =>
    if reader.startsName first then
      some (first :: rest.takeWhile reader.continuesName, rest.dropWhile reader.continuesName)
    else none

/-- The text of the literal that some code starts with, and the code that follows. -/
def literal? (code : String) : Option (String × String) :=
  (reader.quoted? code.toList).map (Prod.map String.ofList String.ofList)

/-- The text of the key that some code starts with, and the code that follows. -/
def key? (code : String) : Option (String × String) :=
  ((reader.quoted? code.toList).or (reader.name? code.toList)).map
    (Prod.map String.ofList String.ofList)

end LiteralReader

/-- A character with an escape is written by it, and every other one stands for itself. -/
theorem quotedCharacter_cases (character : Char) :
    (∃ sign, (sign, character) ∈ escapes ∧ quotedCharacter character = ['\x5c', sign]) ∨
      (character ∉ escapes.map Prod.snd ∧ quotedCharacter character = [character]) := by
  fun_cases quotedCharacter character with
  | case6 notBackslash notQuote notLineFeed notReturn notTab =>
      refine .inr ⟨?_, rfl⟩
      simp [escapes, notBackslash, notQuote, notLineFeed, notReturn, notTab]
  | _ =>
      subst_vars
      exact .inl ⟨_, by decide, rfl⟩

/-- No line is broken and no tab is left between the quotes. -/
theorem not_mem_quoted {character : Char} (control : character ∈ ['\n', '\x0d', '\t'])
    (text : String) : character ∉ (quoted text).toList := by
  have apart : character ≠ '\x27' ∧ character ≠ '\x5c' ∧ character ∈ escapes.map Prod.snd ∧
      ∀ entry ∈ escapes, entry.1 ≠ character := by
    simp only [List.mem_cons, List.not_mem_nil, or_false] at control
    rcases control with rfl | rfl | rfl <;> decide
  obtain ⟨noQuote, noBackslash, escaped, noSign⟩ := apart
  have within : ∀ written ∈ text.toList, character ∉ quotedCharacter written := by
    intro written _ member
    obtain ⟨sign, listed, same⟩ | ⟨plain, same⟩ := quotedCharacter_cases written
    · rw [same] at member
      have notSign : character ≠ sign := (noSign _ listed).symm
      simp [noBackslash, notSign] at member
    · rw [same, List.mem_singleton] at member
      exact plain (member ▸ escaped)
  rw [quoted_toList, quotedCharacters]
  simpa [noQuote] using within

namespace LiteralReader

variable (reader : LiteralReader)

/-- What a character is written as is read as this character, before any content. -/
theorem content?_quotedCharacter (character : Char) {characters value following : List Char}
    (read : reader.content? characters = some (value, following)) :
    reader.content? (quotedCharacter character ++ characters) =
      some (character :: value, following) := by
  obtain ⟨sign, listed, same⟩ | ⟨plain, same⟩ := quotedCharacter_cases character
  · rw [same]
    simp [content?, reader.meant?_of_mem _ listed, read]
  · rw [same, List.singleton_append, content?, if_pos (reader.staysPlain_of_not_mem _ plain), read]
    · rfl
    -- The two signs that are read otherwise have escapes.
    · rintro rfl
      exact plain (by decide)
    · rintro rfl -
      exact plain (by decide)
    · rintro sign rest rfl -
      exact plain (by decide)

theorem content?_quoted (characters following : List Char) :
    reader.content? (characters.flatMap quotedCharacter ++ '\x27' :: following) =
      some (characters, following) := by
  induction characters with
  | nil => simp [content?]
  | cons first characters induction =>
      rw [List.flatMap_cons, List.append_assoc]
      exact reader.content?_quotedCharacter first induction

theorem quoted?_quoted (characters following : List Char) :
    reader.quoted? (quotedCharacters characters ++ following) = some (characters, following) := by
  rw [quotedCharacters, List.cons_append, List.append_assoc]
  exact reader.content?_quoted characters following

/-- An identifier ends before a character that belongs to no name. -/
theorem name?_append {characters : List Char}
    (bare : isIdentifierCharacters characters = true) {next : Char}
    (ends : reader.continuesName next = false) (rest : List Char) :
    reader.name? (characters ++ next :: rest) = some (characters, next :: rest) := by
  cases characters with
  | nil => cases bare
  | cons first characters =>
      rw [isIdentifierCharacters, Bool.and_eq_true, List.all_eq_true] at bare
      have continues : ∀ character ∈ characters, reader.continuesName character = true :=
        fun character member =>
          reader.continuesName_of_continues character (bare.2 character member)
      rw [List.cons_append, name?, if_pos (reader.startsName_of_starts first bare.1),
        List.takeWhile_append_of_pos continues, List.dropWhile_append_of_pos continues,
        List.takeWhile_cons_of_neg (by simp [ends]), List.dropWhile_cons_of_neg (by simp [ends]),
        List.append_nil]

theorem quoted?_append_of_bare {characters : List Char}
    (bare : isIdentifierCharacters characters = true) (rest : List Char) :
    reader.quoted? (characters ++ rest) = none := by
  cases characters with
  | nil => cases bare
  | cons first characters =>
      have noQuote : first ≠ '\x27' := by
        rintro rfl
        cases bare
      simp [quoted?, noQuote]

/-- Every language that knows the five escapes reads the literal of a text back, whatever
follows, and finds no line feed, carriage return or tab in it.  The key of an object is read
back before its colon, whether it has quotes or not. -/
theorem quoted_selfDelimiting (text following : String) :
    reader.literal? (quoted text ++ following) = some (text, following) ∧
    (∀ character ∈ ['\n', '\x0d', '\t'], character ∉ (quoted text).toList) ∧
    reader.key? (javascriptKey text ++ ": " ++ following) = some (text, ": " ++ following) := by
  refine ⟨?_, fun character control => not_mem_quoted control text, ?_⟩
  · rw [literal?, String.toList_append, quoted_toList, quoted?_quoted]
    simp
  · have colon : (": " ++ following).toList = ':' :: ' ' :: following.toList := by simp
    rw [key?, String.append_assoc, String.toList_append, colon]
    by_cases bare : isIdentifier text = true
    · rw [javascriptKey, if_pos bare, reader.quoted?_append_of_bare bare,
        reader.name?_append bare reader.continuesName_colon, ← colon]
      simp only [Option.none_or, Option.map_some, Prod.map_apply, String.ofList_toList]
    · rw [javascriptKey, if_neg bare, quoted_toList, quoted?_quoted, ← colon]
      simp only [Option.some_or, Option.map_some, Prod.map_apply, String.ofList_toList]

/-- A quote, a line feed and a backslash before the closing quote, as strictly read as can be. -/
theorem quoted_trailingBackslash :
    strict.literal? "'it\x5c's\x5cn\x5c\x5c' + x" = some ("it's\n\x5c", " + x") ∧
    '\n' ∉ (quoted "it's\n\x5c").toList ∧
    strict.key? "'it\x5c's\x5cn\x5c\x5c': x" = some ("it's\n\x5c", ": x") := by
  have code : quoted "it's\n\x5c" = "'it\x5c's\x5cn\x5c\x5c'" := by decide
  have keyCode : javascriptKey "it's\n\x5c" = "'it\x5c's\x5cn\x5c\x5c'" := by decide
  obtain ⟨literal, -, -⟩ := strict.quoted_selfDelimiting "it's\n\x5c" " + x"
  obtain ⟨-, unbroken, key⟩ := strict.quoted_selfDelimiting "it's\n\x5c" "x"
  rw [code] at literal
  rw [keyCode] at key
  exact ⟨literal, unbroken '\n' List.mem_cons_self, key⟩

/-- A bare key is read up to its colon. -/
example : strict.key? "name: 'Ann'" = some ("name", ": 'Ann'") := by decide

end LiteralReader

end Text

end OrmCode
