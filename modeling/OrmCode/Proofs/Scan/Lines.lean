import OrmCode.Proofs.Scan.Crossing

/-!
# Line breaks and the tokens of a text

A line break that stands between two tokens or inside a comment with an end of
its own may be replaced by a blank, and blanks around it taken away, without a
change of the tokens.  Whether all breaks of a text do so is found line by line.
-/

namespace OrmCode

namespace Sql

variable {dialect : Dialect}

/-- The blanks that are cut off a line when it is trimmed. -/
def cutOff (line : List Char) : List Char :=
  line.takeWhile Text.isBlank ++ (line.dropWhile Text.isBlank).reverse.takeWhile Text.isBlank

/-- A line is what it is trimmed to, between some of the blanks that are cut off. -/
theorem exists_trimmed (line : List Char) :
    ∃ before after, line = before ++ (Text.trimmedCharacters line ++ after) ∧
      (∀ blank ∈ before, blank ∈ cutOff line) ∧ ∀ blank ∈ after, blank ∈ cutOff line := by
  refine ⟨line.takeWhile Text.isBlank,
    ((line.dropWhile Text.isBlank).reverse.takeWhile Text.isBlank).reverse, ?_,
    fun blank member => List.mem_append_left _ member,
    fun blank member => List.mem_append_right _ (List.mem_reverse.mp member)⟩
  rw [Text.trimmedCharacters, ← List.reverse_append, List.takeWhile_append_dropWhile,
    List.reverse_reverse, List.takeWhile_append_dropWhile]

/-- Whether all breaks between some lines, the first of which starts at a place,
may be replaced by blanks. -/
def breaksApart (dialect : Dialect) : Place → List (List Char) → Bool
  | _, [] => true
  | start, line :: lines =>
    match crossFrom dialect start line with
    | some place => breaksApart dialect place lines
    | none => false

/-- Lines whose breaks stand apart from tokens have the same tokens when they are
trimmed and joined by blanks. -/
theorem resume_joined {lines : List (List Char)} {start : Place}
    (separates : ∀ line ∈ lines, ∀ blank ∈ cutOff line, dialect.separates blank = true)
    (apart : breaksApart dialect start (lines.map Text.trimmedCharacters) = true) :
    resume dialect start (['\n'].intercalate lines) =
      resume dialect start ([' '].intercalate (lines.map Text.trimmedCharacters)) := by
  have feedSeparates : dialect.separates '\n' = true := by cases dialect <;> decide
  have spaceSeparates : dialect.separates ' ' = true := by cases dialect <;> decide
  -- The place where a line ends is the one where the next line starts, so the start
  -- varies in the induction.
  induction lines generalizing start with
  | nil => rfl
  | cons line lines induction =>
      obtain ⟨here, later⟩ := List.forall_mem_cons.mp separates
      obtain ⟨before, after, written, beforeCut, afterCut⟩ := exists_trimmed line
      have beforeSeparates := fun blank member => here blank (beforeCut blank member)
      have afterSeparates := fun blank member => here blank (afterCut blank member)
      rw [List.map_cons, breaksApart] at apart
      cases crossed : crossFrom dialect start (Text.trimmedCharacters line) with
      | none => simp [crossed] at apart
      | some place =>
          simp only [crossed] at apart
          have startsAnew : start ≠ .lineComment := by
            rintro rfl
            cases crossed
          -- The blanks before the line go at its start, those behind it into the gap.
          have untrimmed : ∀ more, resume dialect start (line ++ more) =
              resume dialect start (Text.trimmedCharacters line ++ (after ++ more)) := by
            intro more
            have same : line ++ more =
                before ++ (Text.trimmedCharacters line ++ (after ++ more)) := by
              simpa using congrArg (· ++ more) written
            rw [same, resume_append_of_separates startsAnew beforeSeparates]
          obtain ⟨tokens, again⟩ := resume_of_crossFrom crossed
          cases lines with
          | nil =>
              have raw := again after [] afterSeparates (fun _ => rfl)
              have joined := again [] [] (by simp) (fun _ => rfl)
              have start := untrimmed []
              simp only [List.append_nil] at raw joined start
              rw [List.map_singleton, List.intercalate_singleton, List.intercalate_singleton, start,
                raw, joined, resume_of_separates place afterSeparates]
          | cons next lines =>
              have goesOn : place ≠ .lineComment := by
                rintro rfl
                simp [breaksApart, crossFrom] at apart
              have afterLine : ∀ blank ∈ after ++ ['\n'], dialect.separates blank = true := by
                simpa [or_imp, forall_and] using ⟨afterSeparates, feedSeparates⟩
              have space : ∀ blank ∈ [' '], dialect.separates blank = true := by
                simpa using spaceSeparates
              have raw := again (after ++ ['\n']) (['\n'].intercalate (next :: lines)) afterLine
                (by simp)
              have joined := again [' ']
                ([' '].intercalate ((next :: lines).map Text.trimmedCharacters)) space (by simp)
              rw [resume_append_of_separates goesOn space] at joined
              rw [List.map_cons, List.map_cons, List.intercalate_cons_cons,
                List.intercalate_cons_cons, List.append_assoc, List.append_assoc, untrimmed,
                ← List.append_assoc after, raw, resume_append_of_separates goesOn afterLine,
                induction later apart, ← joined, List.map_cons]

/-- Whether the line breaks of a text may be replaced by blanks, and the blanks
around them taken away, without a change of the tokens. -/
def breaksStandApart (dialect : Dialect) (lines : List String) : Bool :=
  breaksApart dialect .between (lines.map fun line => Text.trimmedCharacters line.toList) &&
    lines.all fun line => (cutOff line.toList).all dialect.separates

theorem scan_joined {lines : List String} (apart : breaksStandApart dialect lines = true) :
    scan dialect ("\n".intercalate lines) =
      scan dialect (" ".intercalate (lines.map Text.trim)) := by
  rw [breaksStandApart, Bool.and_eq_true, List.all_eq_true] at apart
  obtain ⟨breaks, cuts⟩ := apart
  have trimmed : (lines.map String.toList).map Text.trimmedCharacters =
      (lines.map Text.trim).map String.toList := by
    simp [Text.trim]
  have separates : ∀ line ∈ lines.map String.toList, ∀ blank ∈ cutOff line,
      dialect.separates blank = true := by
    rintro characters member
    obtain ⟨line, listed, rfl⟩ := List.mem_map.mp member
    exact List.all_eq_true.mp (cuts line listed)
  have joined := resume_joined separates (by rw [List.map_map]; exact breaks : breaksApart dialect
    .between ((lines.map String.toList).map Text.trimmedCharacters) = true)
  rw [scan_eq_tokens?, scan_eq_tokens?, String.toList_intercalate, String.toList_intercalate,
    ← trimmed]
  exact joined

/-- The lines up to the first that ends within a comment up to the end of the line. -/
def upToComment (dialect : Dialect) : Place → List String → List String
  | _, [] => []
  | .lineComment, _ => []
  | start, line :: lines =>
    line ::
      match crossFrom dialect start (Text.trimmedCharacters line.toList) with
      | some place => upToComment dialect place lines
      | none => lines

theorem exists_upToComment {start : Place} (startsAnew : start ≠ .lineComment) (line : String)
    (lines : List String) :
    ∃ others, upToComment dialect start (line :: lines) = line :: others := by
  cases start with
  | lineComment => exact absurd rfl startsAnew
  | _ => exact ⟨_, rfl⟩

theorem not_mem_joined {character : Char} (solid : character ≠ ' ') {lines : List String}
    (absent : ∀ line ∈ lines, character ∉ line.toList) :
    character ∉ (" ".intercalate (lines.map Text.trim)).toList := by
  induction lines with
  | nil => simp
  | cons line lines induction =>
      obtain ⟨here, later⟩ := List.forall_mem_cons.mp absent
      obtain ⟨before, after, written, -⟩ := exists_trimmed line.toList
      have trimmed : character ∉ (Text.trim line).toList := by
        intro member
        apply here
        rw [written, Text.trim, String.toList_ofList] at *
        exact List.mem_append_right _ (List.mem_append_left _ member)
      have rest := induction later
      cases lines with
      | nil => simpa using trimmed
      | cons next lines =>
          rw [List.map_cons] at rest
          simp only [List.map_cons, String.intercalate_cons_cons, String.toList_append,
            List.mem_append, not_or]
          exact ⟨⟨trimmed, by simpa using solid⟩, rest⟩

/-- Lines without line feeds of their own are nothing but a comment where one goes on. -/
theorem resume_lineComment {lines : List String} (oneByOne : ∀ line ∈ lines, '\n' ∉ line.toList) :
    resume dialect .lineComment (' ' :: (" ".intercalate (lines.map Text.trim)).toList) =
      resume dialect .lineComment [] := by
  have goesOn : '\n' ∉ ' ' :: (" ".intercalate (lines.map Text.trim)).toList := by
    simpa using not_mem_joined (by decide) oneByOne
  rw [resume, ← List.append_nil (' ' :: _), afterLine_append_of_not_mem _ goesOn, resume]

/-- Nothing is read of the lines behind a comment up to the end of its line when
all lines are joined by blanks. -/
theorem resume_upToComment {lines : List String} {start : Place}
    (startsAnew : start ≠ .lineComment) (oneByOne : ∀ line ∈ lines, '\n' ∉ line.toList) :
    resume dialect start (" ".intercalate (lines.map Text.trim)).toList =
      resume dialect start
        (" ".intercalate ((upToComment dialect start lines).map Text.trim)).toList := by
  have spaceSeparates : dialect.separates ' ' = true := by cases dialect <;> decide
  have space : ∀ blank ∈ [' '], dialect.separates blank = true := by
    simpa using spaceSeparates
  have joinedCons : ∀ line next lines,
      (" ".intercalate ((line :: next :: lines).map Text.trim)).toList =
        Text.trimmedCharacters line.toList ++
          ([' '] ++ (" ".intercalate ((next :: lines).map Text.trim)).toList) := by
    intro line next lines
    simp [Text.trim, String.intercalate_cons_cons]
  induction lines generalizing start with
  | nil => rw [upToComment]
  | cons line lines induction =>
      have kept : upToComment dialect start (line :: lines) =
          line ::
            match crossFrom dialect start (Text.trimmedCharacters line.toList) with
            | some place => upToComment dialect place lines
            | none => lines := by
        rw [upToComment]
        exact startsAnew
      cases crossed : crossFrom dialect start (Text.trimmedCharacters line.toList) with
      | none => rw [kept, crossed]
      | some place =>
          simp only [kept, crossed]
          obtain ⟨tokens, again⟩ := resume_of_crossFrom crossed
          cases lines with
          | nil => rw [upToComment]
          | cons next lines =>
              have later := List.forall_mem_of_forall_mem_cons oneByOne
              -- Behind a comment all later lines are part of it; otherwise the next line
              -- is kept and the induction goes on from there.
              by_cases comment : place = .lineComment
              · subst comment
                have alone := again [] [] (by simp) (fun _ => rfl)
                have all := again [' '] (" ".intercalate ((next :: lines).map Text.trim)).toList
                  space (by simp)
                rw [joinedCons, all, List.singleton_append, resume_lineComment later]
                simpa [upToComment, Text.trim] using alone.symm
              · obtain ⟨others, same⟩ := exists_upToComment comment next lines
                have rest := induction comment later
                rw [same] at rest ⊢
                rw [joinedCons, joinedCons, again _ _ space (by simp), again _ _ space (by simp),
                  resume_append_of_separates comment space,
                  resume_append_of_separates comment space, rest]

theorem scan_upToComment {lines : List String} (oneByOne : ∀ line ∈ lines, '\n' ∉ line.toList) :
    scan dialect (" ".intercalate (lines.map Text.trim)) =
      scan dialect (" ".intercalate ((upToComment dialect .between lines).map Text.trim)) := by
  have startsAnew : Place.between ≠ .lineComment := by simp
  rw [scan_eq_tokens?, scan_eq_tokens?]
  exact resume_upToComment startsAnew oneByOne

end Sql

end OrmCode
