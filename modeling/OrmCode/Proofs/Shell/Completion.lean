import Mathlib.Data.List.TakeWhile
import OrmCode.Proofs.Text.Bytes
import OrmCode.Proofs.Text.LetterCase
import OrmCode.Text.Lines

/-!
# What the shell completes

The shell completes the word before a position, from the last character that separates words
on.  It takes this character for one byte, and gives nothing where it has more.
-/

namespace OrmCode

/-- What follows a lead is there exactly if the lead is. -/
theorem Text.isSome_afterStart? (lead characters : List Char) :
    (Text.afterStart? lead characters).isSome = lead.isPrefixOf characters := by
  induction lead generalizing characters with
  | nil => rfl
  | cons wanted lead induction =>
      cases characters with
      | nil => rfl
      | cons first characters =>
          rw [Text.afterStart?, List.isPrefixOf]
          by_cases same : wanted = first
          · rw [if_pos same, induction, beq_iff_eq.mpr same, Bool.true_and]
          · rw [if_neg same, beq_false_of_ne same, Bool.false_and]
            rfl

namespace Shell

theorem byteCount_toList (text : String) : byteCount text.toList = text.utf8ByteSize := by
  rw [byteCount, String.ofList_toList]

/-- Only whole characters are taken from the start of a text. -/
theorem firstBytes?_eq_some_iff {count : Nat} {characters first : List Char} :
    firstBytes? count characters = some first ↔
      first <+: characters ∧ byteCount first = count := by
  constructor
  · fun_induction firstBytes? count characters generalizing first with
    | case1 characters =>
        rintro ⟨⟩
        exact ⟨List.nil_prefix, rfl⟩
    | case2 count => exact nofun
    | case3 count character rest fits induction =>
        intro found
        obtain ⟨others, taken, rfl⟩ := Option.map_eq_some_iff.mp found
        obtain ⟨inside, size⟩ := induction taken
        refine ⟨(List.prefix_cons_inj character).mpr inside, ?_⟩
        rw [byteCount_cons, size]
        omega
    | case4 count character rest tooWide => exact nofun
  · rintro ⟨⟨rest, rfl⟩, rfl⟩
    exact firstBytes?_byteCount first rest

/-- The word that ends what is written, and what stands before it. -/
structure IsCurrentWord (written lead word : String) : Prop where
  split : written = lead ++ word
  unseparated : ∀ character ∈ word.toList, separatesWords character = false
  separated : ∀ character ∈ lead.toList.getLast?, separatesWords character = true

/-- The keywords that go on from a word, whatever the case of their letters. -/
def keywordsFrom (word : String) : List String :=
  completedKeywords.filter fun keyword =>
    (Text.lower word).toList.isPrefixOf (Text.lower keyword).toList

/-- The commands that go on from what is written. -/
def commandsFrom (written : String) : List String :=
  commandNames.filter fun command => written.toList.isPrefixOf command.toList

/-- What completes what is written: a command behind a period, and the current word elsewhere. -/
inductive Completes (written : String) : Completion → Prop
  | command (dotted : written.toList.head? = some '.') :
    Completes written ⟨0, commandsFrom written⟩
  | keyword {lead word : String} (undotted : written.toList.head? ≠ some '.')
    (current : IsCurrentWord written lead word) :
    Completes written ⟨lead.utf8ByteSize, keywordsFrom word⟩

/-- Whether the current word follows a separator of more than one byte. -/
def FollowsWide (written : String) : Prop :=
  written.toList.head? ≠ some '.' ∧ ∃ lead word, IsCurrentWord written lead word ∧
    ∃ separator ∈ lead.toList.getLast?, 1 < separator.utf8Size

theorem commandCandidates_eq (written : String) :
    commandCandidates written.toList = commandsFrom written := by
  simp only [commandCandidates, commandsFrom, Text.isSome_afterStart?]

/-- One text goes on from another in capitals exactly if it does in small letters. -/
theorem isPrefixOf_toUpper_iff {first second : List Char} :
    (first.map Char.toUpper).isPrefixOf (second.map Char.toUpper) = true ↔
      (first.map Char.toLower).isPrefixOf (second.map Char.toLower) = true := by
  have small : ∀ characters : List Char,
      (characters.map Char.toUpper).map Char.toLower = characters.map Char.toLower := by
    intro characters
    rw [List.map_map]
    exact List.map_congr_left fun character _ => Text.toLower_toUpper character
  have capital : ∀ characters : List Char,
      (characters.map Char.toLower).map Char.toUpper = characters.map Char.toUpper := by
    intro characters
    rw [List.map_map]
    exact List.map_congr_left fun character _ => Text.toUpper_toLower character
  rw [List.isPrefixOf_iff_prefix, List.isPrefixOf_iff_prefix]
  constructor
  · intro starts
    rw [← small first, ← small second]
    exact starts.map _
  · intro starts
    rw [← capital first, ← capital second]
    exact starts.map _

theorem keywordCandidates_eq (word : String) :
    keywordCandidates word.toList = keywordsFrom word := by
  have capitals : ∀ keyword ∈ completedKeywords,
      keyword.toList.map Char.toUpper = keyword.toList := by
    decide
  refine List.filter_congr fun keyword member => ?_
  rw [Text.isSome_afterStart?, Bool.eq_iff_iff, Text.lower_toList, Text.lower_toList,
    ← isPrefixOf_toUpper_iff, capitals keyword member]

section CurrentWord

variable {written lead word : String} (current : IsCurrentWord written lead word)

include current

/-- The last separator is the last character before the current word. -/
theorem dropWhile_of_isCurrentWord :
    (written.toList.reverse.dropWhile fun character => !separatesWords character) =
      lead.toList.reverse := by
  have reversed : written.toList.reverse = word.toList.reverse ++ lead.toList.reverse := by
    rw [current.split, String.toList_append, List.reverse_append]
  have kept : ∀ character ∈ word.toList.reverse, (!separatesWords character) = true := by
    intro character member
    rw [current.unseparated character (List.mem_reverse.mp member)]
    rfl
  have separated := current.separated
  rw [← List.head?_reverse] at separated
  rw [reversed, List.dropWhile_append_of_pos kept]
  cases backwards : lead.toList.reverse with
  | nil => rfl
  | cons separator before =>
      rw [backwards] at separated
      exact List.dropWhile_cons_of_neg (by simp [separated separator rfl])

/-- The current word is completed from its start, unless the separator before it is wide. -/
theorem completeWord_of_isCurrentWord :
    completeWord written.toList =
      if lead.toList.getLast?.all (fun separator => separator.utf8Size == 1) then
        some ⟨lead.utf8ByteSize, keywordsFrom word⟩
      else none := by
  have split : written.toList = lead.toList ++ word.toList := by
    rw [current.split, String.toList_append]
  have dropped := dropWhile_of_isCurrentWord current
  rw [← List.head?_reverse]
  cases backwards : lead.toList.reverse with
  | nil =>
      have bare : lead.toList = [] := List.reverse_eq_nil_iff.mp backwards
      have start : wordStart written.toList = byteCount lead.toList := by
        rw [wordStart, lastSeparator?, dropped, backwards, bare]
        rfl
      rw [completeWord, start, split, slice?_suffix, Option.map_some, keywordCandidates_eq,
        byteCount_toList]
      rfl
  | cons separator before =>
      have ends : lead.toList = before.reverse ++ [separator] := by
        rw [← List.reverse_reverse lead.toList, backwards, List.reverse_cons]
      have start : wordStart written.toList = byteCount before.reverse + 1 := by
        rw [wordStart, lastSeparator?, dropped, backwards]
        rfl
      have width : byteCount lead.toList = byteCount before.reverse + separator.utf8Size := by
        rw [ends, byteCount_append, byteCount_cons, byteCount_nil, Nat.add_zero]
      rw [List.head?_cons, Option.all_some]
      by_cases narrow : separator.utf8Size = 1
      · rw [narrow] at width
        rw [completeWord, start, ← width, split, slice?_suffix, Option.map_some,
          keywordCandidates_eq, byteCount_toList, if_pos (beq_iff_eq.mpr narrow)]
      · -- One byte behind where the separator starts is inside of it.
        have inside : firstBytes? 1 ([separator] ++ word.toList) = none := by
          have size := separator.utf8Size_pos
          rw [List.singleton_append, firstBytes?, if_neg (by omega)]
        have cut : slice? (byteCount before.reverse + 1) (byteCount written.toList)
            written.toList = none := by
          rw [split, ends, List.append_assoc, slice?_of_inside inside]
        rw [completeWord, start, cut, if_neg (by simpa using narrow)]
        rfl

end CurrentWord

theorem exists_isCurrentWord (written : String) : ∃ lead word, IsCurrentWord written lead word := by
  have parts := List.takeWhile_append_dropWhile
    (p := fun character => !separatesWords character) (l := written.toList.reverse)
  refine ⟨String.ofList (written.toList.reverse.dropWhile fun character =>
      !separatesWords character).reverse,
    String.ofList (written.toList.reverse.takeWhile fun character =>
      !separatesWords character).reverse, ?_, ?_, ?_⟩
  · rw [← String.toList_inj]
    simp [← List.reverse_append]
  · intro character member
    rw [String.toList_ofList, List.mem_reverse] at member
    simpa using List.mem_takeWhile_imp member
  · intro character last
    rw [String.toList_ofList, List.getLast?_reverse] at last
    have shown := List.head?_dropWhile_not (fun character => !separatesWords character)
      written.toList.reverse
    rw [Option.mem_def.mp last] at shown
    simpa using shown

/-- The completion of what is written before a position. -/
def completeWritten (written : String) : Option Completion :=
  if written.toList.head? = some '.' then some ⟨0, commandsFrom written⟩
  else completeWord written.toList

theorem complete_append (written rest : String) :
    complete (written ++ rest) written.utf8ByteSize = completeWritten written := by
  rw [complete, ← byteCount_toList, String.toList_append, firstBytes?_byteCount, Option.bind_some,
    commandCandidates_eq, completeWritten]

theorem complete_eq_some_iff {line : String} {position : Nat} {completion : Completion} :
    complete line position = some completion ↔
      ∃ written rest, line = written ++ rest ∧ written.utf8ByteSize = position ∧
        completeWritten written = some completion := by
  constructor
  · intro found
    obtain ⟨first, taken, completed⟩ := Option.bind_eq_some_iff.mp found
    obtain ⟨⟨rest, split⟩, size⟩ := firstBytes?_eq_some_iff.mp taken
    refine ⟨String.ofList first, String.ofList rest, ?_, size, ?_⟩
    · rw [← String.toList_inj]
      simp [split]
    · rw [completeWritten, String.toList_ofList, ← commandCandidates_eq, String.toList_ofList,
        completed]
  · rintro ⟨written, rest, rfl, rfl, completed⟩
    rw [complete_append, completed]

/-- There is no completion exactly where the current word follows a wide separator. -/
theorem completeWritten_eq_none_iff {written : String} :
    completeWritten written = none ↔ FollowsWide written := by
  constructor
  · intro nothing
    rw [completeWritten] at nothing
    split at nothing
    · cases nothing
    · next undotted =>
        obtain ⟨lead, word, current⟩ := exists_isCurrentWord written
        refine ⟨undotted, lead, word, current, ?_⟩
        rw [completeWord_of_isCurrentWord current] at nothing
        cases last : lead.toList.getLast? with
        | none => simp [last] at nothing
        | some separator =>
            have notOne : separator.utf8Size ≠ 1 := by simpa [last] using nothing
            have some := separator.utf8Size_pos
            exact ⟨separator, rfl, by omega⟩
  · rintro ⟨undotted, lead, word, current, separator, last, wide⟩
    rw [completeWritten, if_neg undotted, completeWord_of_isCurrentWord current,
      Option.mem_def.mp last]
    simp [Nat.ne_of_gt wide]

theorem completes_of_completeWritten {written : String} {completion : Completion}
    (completed : completeWritten written = some completion) : Completes written completion := by
  rw [completeWritten] at completed
  split at completed
  · next dotted =>
      obtain rfl := Option.some.inj completed
      exact .command dotted
  · next undotted =>
      obtain ⟨lead, word, current⟩ := exists_isCurrentWord written
      rw [completeWord_of_isCurrentWord current] at completed
      split at completed
      · obtain rfl := Option.some.inj completed
        exact .keyword undotted current
      · cases completed

/-- A completion starts between two characters of what is written. -/
theorem Completes.exists_lead {written : String} {completion : Completion}
    (completes : Completes written completion) :
    ∃ lead word, written = lead ++ word ∧ completion.start = lead.utf8ByteSize := by
  cases completes with
  | command dotted => exact ⟨"", written, by simp, rfl⟩
  | keyword undotted current => exact ⟨_, _, current.split, rfl⟩

/-- There is a completion at each position between two characters and at no other, unless the
current word follows a separator of more than one byte.  It starts between two characters at or
before the position.  Behind a period it has the commands that go on from what is written.
Elsewhere it starts with the current word, which has no separator in it and one or nothing before
it, and has the keywords that go on from this word, in the order of the table. -/
theorem complete_determined (line : String) (position : Nat) :
    ((∃ completion, complete line position = some completion) ↔
      ∃ written rest, line = written ++ rest ∧ written.utf8ByteSize = position ∧
        ¬FollowsWide written) ∧
    ∀ completion, complete line position = some completion →
      completion.start ≤ position ∧ (⟨completion.start⟩ : String.Pos.Raw).IsValid line ∧
        ∃ written rest, line = written ++ rest ∧ written.utf8ByteSize = position ∧
          Completes written completion := by
  constructor
  · simp only [complete_eq_some_iff, ← completeWritten_eq_none_iff, ← Option.isSome_iff_ne_none,
      Option.isSome_iff_exists]
    constructor
    · rintro ⟨completion, written, rest, split, size, completed⟩
      exact ⟨written, rest, split, size, completion, completed⟩
    · rintro ⟨written, rest, split, size, completion, completed⟩
      exact ⟨completion, written, rest, split, size, completed⟩
  · intro completion found
    obtain ⟨written, rest, rfl, rfl, completed⟩ := complete_eq_some_iff.mp found
    have completes := completes_of_completeWritten completed
    obtain ⟨lead, word, rfl, start⟩ := completes.exists_lead
    refine ⟨?_, ?_, _, rest, rfl, rfl, completes⟩
    · rw [start, String.utf8ByteSize_append]
      exact Nat.le_add_right _ _
    · rw [String.Pos.Raw.isValid_iff_exists_append]
      exact ⟨lead, word ++ rest, String.append_assoc, congrArg _ start⟩

/-- An ideographic space takes three bytes, and what follows it is not completed. -/
theorem complete_wideBlank :
    complete "SELECT\u3000FR" 11 = none ∧
      complete "SELECT\u3000a (fr, b" 14 = some ⟨12, ["FROM"]⟩ ∧
      (⟨12⟩ : String.Pos.Raw).IsValid "SELECT\u3000a (fr, b" := by
  have current : IsCurrentWord "SELECT\u3000FR" "SELECT\u3000" "FR" :=
    { split := by decide +kernel
      unseparated := List.forall_mem_cons.mpr ⟨by decide, List.forall_mem_singleton.mpr (by decide)⟩
      separated := by
        rintro character ⟨⟩
        decide }
  have wide : FollowsWide "SELECT\u3000FR" :=
    ⟨by decide, "SELECT\u3000", "FR", current, '\u3000', rfl, by decide⟩
  have missing : complete ("SELECT\u3000FR" ++ "") 11 = none :=
    (complete_append _ "").trans (completeWritten_eq_none_iff.mpr wide)
  have found : complete ("SELECT\u3000a (fr" ++ ", b") 14 = some ⟨12, ["FROM"]⟩ :=
    (complete_append _ ", b").trans (by decide +kernel)
  exact ⟨missing, found, ((complete_determined _ 14).2 _ found).2.1⟩

end Shell

end OrmCode
