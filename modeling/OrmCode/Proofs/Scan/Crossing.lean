import OrmCode.Proofs.Scan.Comment

/-!
# Where lines end

A line is crossed from one place to another, between tokens or within a comment.  Its tokens
are read, and reading goes on from the place where it ends.
-/

namespace OrmCode

namespace Sql

variable {dialect : Dialect}

/-- A place in a text: between tokens, within a comment up to the end of the line,
or within comments of which some are around the innermost one. -/
inductive Place
  | between
  | lineComment
  | inside (depth : Nat)
  deriving DecidableEq

/-- The tokens of the characters after a place. -/
def resume (dialect : Dialect) : Place → List Char → Option (List Token)
  | .between, characters => tokens? dialect characters
  | .lineComment, characters => tokens? dialect (afterLine characters)
  | .inside depth, characters => (afterComment depth ' ' characters).bind (tokens? dialect)

/-- A question mark takes the character after it along, unless that begins an operator. -/
theorem scanQuestion_append {blank : Char} (here : Dialect.separates .postgresql blank = true)
    {rest after : List Char} {token? : Option Token}
    (found : scanQuestion .postgresql rest = (token?, after)) (gap tail : List Char)
    (separates : ∀ blank ∈ gap, Dialect.separates .postgresql blank = true) :
    some (scanQuestion .postgresql (rest ++ (blank :: gap ++ tail))) =
        some (token?, after ++ (blank :: gap ++ tail)) ∨
      after = [] ∧ ∃ left, (∀ blank ∈ left, Dialect.separates .postgresql blank = true) ∧
        some (scanQuestion .postgresql (rest ++ (blank :: gap ++ tail))) =
          some (token?, left ++ tail) := by
  have isBlank := (Dialect.separates_iff.mp here).1
  have notBar := Text.ne_of_isBlank isBlank (by decide : Text.isBlank '|' = false)
  have notAnd := Text.ne_of_isBlank isBlank (by decide : Text.isBlank '&' = false)
  revert found
  fun_cases scanQuestion .postgresql rest with
  | case1 | case2 =>
      intro found
      obtain ⟨rfl, rfl⟩ := Prod.mk.inj found
      exact Or.inl rfl
  | case3 rest _ noBar noAnd =>
      intro found
      obtain ⟨rfl, rfl⟩ := Prod.mk.inj found
      cases rest with
      | nil => exact Or.inr ⟨rfl, gap, separates, by simp [scanQuestion, notBar, notAnd]⟩
      | cons next others =>
          have plain : next ≠ '|' ∧ next ≠ '&' :=
            ⟨fun same => noBar others (same ▸ rfl), fun same => noAnd others (same ▸ rfl)⟩
          exact Or.inl (by simp [scanQuestion, plain.1, plain.2])
  | case4 _ other => exact absurd rfl other

/-- A step that is taken on a line is taken as well where blanks and further
text follow.  Only at the end of the line it may pass over some of the blanks. -/
theorem scanStep_append {first : Char} {rest after : List Char} {token? : Option Token}
    (found : scanStep dialect first rest = some (token?, after))
    (noBlock : ¬(first = '/' ∧ rest.head? = some '*'))
    (onLine : (scanComment? dialect first rest).isSome = true → '\n' ∈ rest)
    (stays : hangs dialect first rest = false) {gap tail : List Char}
    (separates : ∀ blank ∈ gap, dialect.separates blank = true) (bounded : gap = [] → tail = []) :
    scanStep dialect first (rest ++ (gap ++ tail)) = some (token?, after ++ (gap ++ tail)) ∨
      after = [] ∧ ∃ left, (∀ blank ∈ left, dialect.separates blank = true) ∧
        scanStep dialect first (rest ++ (gap ++ tail)) = some (token?, left ++ tail) := by
  cases gap with
  | nil =>
      rw [bounded rfl, List.append_nil, List.append_nil, List.append_nil]
      exact Or.inl found
  | cons blank gap =>
      have here := separates blank List.mem_cons_self
      -- Comments and question marks look further ahead than a blank allows, so the
      -- lemma about settled steps leaves them out.
      cases comment : scanComment? dialect first rest with
      | some scanned? =>
          rw [scanStep_of_comment comment] at found
          rw [found] at comment
          obtain ⟨rfl, body, rfl, ends, again⟩ := lineComment_append noBlock comment
          have feed : '\n' ∈ body := ends.mp (onLine (by rw [comment]; rfl))
          rw [scanStep_of_comment (again _), afterLine_append _ feed]
          exact Or.inl rfl
      | none =>
          by_cases question : dialect = .postgresql ∧ first = '?'
          · obtain ⟨rfl, rfl⟩ := question
            rw [scanStep_question] at found ⊢
            exact scanQuestion_append here (Option.some.inj found) gap tail
              fun other member => separates other (List.mem_cons_of_mem _ member)
          · exact Or.inl ((settled_scanStep here comment stays question found).2 (gap ++ tail))

/-- Where a line ends that starts between tokens, reading at most `fuel` steps.
It has no such end within a string or a quoted name, or behind a sign that waits
for a name. -/
def cross (dialect : Dialect) : Nat → List Char → Option Place
  | _, [] => some .between
  | 0, _ :: _ => none
  | fuel + 1, first :: rest =>
    if first = '/' ∧ rest.head? = some '*' then
      match crossComment 0 ' ' (rest.drop 1) with
      | .inl depth => some (.inside depth)
      | .inr after => cross dialect fuel after
    else if (scanComment? dialect first rest).isSome = true ∧ '\n' ∉ rest then
      some .lineComment
    else if hangs dialect first rest then none
    else (scanStep dialect first rest).bind fun (_, after) => cross dialect fuel after

/-- A line that is crossed has some tokens, and reading goes on where it ends. -/
theorem tokens?_of_cross {fuel : Nat} {characters : List Char} {place : Place}
    (crossed : cross dialect fuel characters = some place) :
    ∃ tokens, ∀ gap tail, (∀ blank ∈ gap, dialect.separates blank = true) →
      (gap = [] → tail = []) →
      tokens? dialect (characters ++ (gap ++ tail)) =
        (resume dialect place (gap ++ tail)).map (tokens ++ ·) := by
  -- Along the steps of the line; what stands behind it is left open, since the next
  -- line is read from the place where this one ends.
  fun_induction cross dialect fuel characters generalizing place with
  | case1 =>
      obtain rfl := Option.some.inj crossed
      exact ⟨[], fun gap tail separates bounded => Option.map_id'.symm⟩
  | case2 => cases crossed
  | case3 fuel first rest opens depth inside =>
      obtain ⟨rfl, starred⟩ := opens
      obtain ⟨body, rfl⟩ := List.head?_eq_some_iff.mp starred
      obtain rfl := Option.some.inj crossed
      refine ⟨[], fun gap tail separates bounded => ?_⟩
      have isBlank : ∀ blank ∈ gap, Text.isBlank blank = true :=
        fun blank member => (Dialect.separates_iff.mp (separates blank member)).1
      have goesOn := afterComment_of_inside inside isBlank tail bounded
      simp only [List.drop_succ_cons, List.drop_zero] at goesOn
      rw [List.cons_append, List.cons_append, tokens?_cons, scanStep_of_comment rfl, goesOn,
        resume]
      cases afterComment depth ' ' (gap ++ tail) with
      | none => rfl
      | some left => simp
  | case4 fuel first rest opens after closed induction =>
      obtain ⟨rfl, starred⟩ := opens
      obtain ⟨body, rfl⟩ := List.head?_eq_some_iff.mp starred
      obtain ⟨tokens, again⟩ := induction crossed
      refine ⟨tokens, fun gap tail separates bounded => ?_⟩
      have closes : crossComment 0 ' ' body = .inr after := closed
      have step : scanStep dialect '/' ('*' :: body ++ (gap ++ tail)) =
          some (none, after ++ (gap ++ tail)) := by
        rw [List.cons_append, scanStep_of_comment rfl, afterComment_of_crossed closes]
        rfl
      rw [List.cons_append, tokens?_of_step step, again gap tail separates bounded]
      exact Option.map_id'
  | case5 fuel first rest noBlock comment =>
      obtain rfl := Option.some.inj crossed
      obtain ⟨scanned?, known⟩ := Option.isSome_iff_exists.mp comment.1
      cases scanned? with
      | none => exact absurd known (scanComment?_ne_some_none noBlock)
      | some scanned =>
          obtain ⟨-, body, -, ends, again⟩ := lineComment_append noBlock known
          have goesOn : '\n' ∉ body := fun feed => comment.2 (ends.mpr feed)
          refine ⟨[], fun gap tail separates bounded => ?_⟩
          rw [List.cons_append, tokens?_of_step (scanStep_of_comment (again _)),
            afterLine_append_of_not_mem _ goesOn]
          rfl
  | case6 => cases crossed
  | case7 fuel first rest noBlock onLine stays induction =>
      obtain ⟨⟨token?, after⟩, found, goesOn⟩ := Option.bind_eq_some_iff.mp crossed
      obtain ⟨tokens, again⟩ := induction after goesOn
      have onLine : (scanComment? dialect first rest).isSome = true → '\n' ∈ rest :=
        fun comment => not_not.mp fun goesOn => onLine ⟨comment, goesOn⟩
      refine ⟨token?.toList ++ tokens, fun gap tail separates bounded => ?_⟩
      rw [List.cons_append]
      rcases scanStep_append found noBlock onLine (by simpa using stays) separates bounded with
        step | ⟨rfl, left, leftSeparates, step⟩
      · rw [tokens?_of_step step, again gap tail separates bounded, Option.map_map]
        exact congrArg (Option.map · _) (funext fun _ => (List.append_assoc _ _ _).symm)
      -- A step that passes over some of the blanks is the last one of the line.
      · have atEnd : place = .between := by
          cases fuel <;> exact (Option.some.inj goesOn).symm
        subst atEnd
        have nothing : tokens = [] := by
          simpa [resume, tokens?_nil] using again [] [] (by simp) (by simp)
        rw [tokens?_of_step step, tokens?_append_of_separates leftSeparates, nothing,
          List.append_nil, resume, tokens?_append_of_separates separates]

/-- Where a line ends that starts at a place.  A comment up to the end of its line
does not go on. -/
def crossFrom (dialect : Dialect) : Place → List Char → Option Place
  | .between, characters => cross dialect characters.length characters
  | .lineComment, _ => none
  | .inside depth, characters =>
    match crossComment depth ' ' characters with
    | .inl inner => some (.inside inner)
    | .inr after => cross dialect after.length after

theorem resume_of_crossFrom {characters : List Char} {start place : Place}
    (crossed : crossFrom dialect start characters = some place) :
    ∃ tokens, ∀ gap tail, (∀ blank ∈ gap, dialect.separates blank = true) →
      (gap = [] → tail = []) →
      resume dialect start (characters ++ (gap ++ tail)) =
        (resume dialect place (gap ++ tail)).map (tokens ++ ·) := by
  cases start with
  | between => exact tokens?_of_cross crossed
  | lineComment => cases crossed
  | inside depth =>
      rcases reached : crossComment depth ' ' characters with inner | after
      · simp only [crossFrom, reached] at crossed
        obtain rfl := Option.some.inj crossed
        refine ⟨[], fun gap tail separates bounded => ?_⟩
        rw [resume, afterComment_of_inside reached (fun blank member =>
          (Dialect.separates_iff.mp (separates blank member)).1) tail bounded]
        exact Option.map_id'.symm
      · simp only [crossFrom, reached] at crossed
        obtain ⟨tokens, again⟩ := tokens?_of_cross crossed
        refine ⟨tokens, fun gap tail separates bounded => ?_⟩
        rw [resume, afterComment_of_crossed reached]
        exact again gap tail separates bounded

/-- Blanks do not matter except in a comment that one of them may end. -/
theorem resume_append_of_separates {gap : List Char} {start : Place}
    (goesOn : start ≠ .lineComment) (separates : ∀ blank ∈ gap, dialect.separates blank = true)
    (rest : List Char) : resume dialect start (gap ++ rest) = resume dialect start rest := by
  cases start with
  | between => exact tokens?_append_of_separates separates rest
  | lineComment => exact absurd rfl goesOn
  | inside depth =>
      rw [resume, resume, afterComment_append_of_isBlank fun blank member =>
        (Dialect.separates_iff.mp (separates blank member)).1]

theorem resume_of_separates {gap : List Char} (start : Place)
    (separates : ∀ blank ∈ gap, dialect.separates blank = true) :
    resume dialect start gap = resume dialect start [] := by
  have passed : ∀ {start : Place}, start ≠ .lineComment →
      resume dialect start gap = resume dialect start [] := by
    intro start goesOn
    rw [← resume_append_of_separates goesOn separates [], List.append_nil]
  cases start with
  | between => exact passed (by simp)
  | inside depth => exact passed (by simp)
  | lineComment =>
      have left : ∀ blank ∈ afterLine gap, dialect.separates blank = true :=
        fun blank member => separates blank ((suffix_of_afterLine gap).subset member)
      have rest := tokens?_append_of_separates left []
      rw [List.append_nil] at rest
      exact rest

end Sql

end OrmCode
