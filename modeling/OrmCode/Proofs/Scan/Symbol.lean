import OrmCode.Proofs.Scan.Blank

/-!
# Symbols before a blank

The longest symbol at the start of a text is the same before a blank.  A sign that may begin a
name is settled as well, unless it stands at the end and waits for the name.
-/

namespace OrmCode

namespace Sql

variable {Value : Type} {dialect : Dialect} {blank : Char}

theorem symbolAtStart?_append {candidates : List String}
    (apart : ∀ candidate ∈ candidates, blank ∉ candidate.toList) (characters tail : List Char) :
    symbolAtStart? candidates (characters ++ blank :: tail) =
      (symbolAtStart? candidates characters).map fun (text, after) =>
        (text, after ++ blank :: tail) := by
  induction candidates with
  | nil => rfl
  | cons candidate candidates induction =>
      obtain ⟨here, later⟩ := List.forall_mem_cons.mp apart
      have rest := induction later
      simp only [symbolAtStart?, List.findSome?_cons] at rest ⊢
      rw [Text.afterStart?_append characters tail here]
      cases Text.afterStart? candidate.toList characters with
      | some after => rfl
      | none => exact rest

theorem suffix_of_symbolAtStart? {candidates : List String} {first : Char}
    {rest after : List Char} {text : String}
    (something : ∀ candidate ∈ candidates, candidate.toList ≠ [])
    (found : symbolAtStart? candidates (first :: rest) = some (text, after)) : after <:+ rest := by
  obtain ⟨candidate, member, read⟩ := List.exists_of_findSome?_eq_some found
  obtain ⟨left, left_eq, same⟩ := Option.map_eq_some_iff.mp read
  obtain ⟨rfl, rfl⟩ := Prod.mk.inj same
  cases spelled : candidate.toList with
  | nil => exact absurd spelled (something candidate member)
  | cons wanted lead =>
      rw [spelled, Text.afterStart?] at left_eq
      split at left_eq
      · exact Text.suffix_of_afterStart? left_eq
      · cases left_eq

theorem symbols_plain {symbol : String} (member : symbol ∈ symbols) :
    symbol.toList ≠ [] ∧ ∀ character ∈ symbol.toList, Text.isBlank character = false := by
  have every : symbols.all (fun symbol =>
      !symbol.toList.isEmpty && symbol.toList.all (!Text.isBlank ·)) = true := by decide
  simpa using List.all_eq_true.mp every symbol member

theorem symbolAtStart?_isSome (isBlank : Text.isBlank blank = true) (first : Char)
    (rest tail : List Char) :
    (symbolAtStart? symbols (first :: (rest ++ blank :: tail))).isSome =
      (symbolAtStart? symbols (first :: rest)).isSome := by
  rw [← List.cons_append, symbolAtStart?_append fun symbol member written =>
    Text.ne_of_isBlank isBlank ((symbols_plain member).2 blank written) rfl]
  exact Option.isSome_map

theorem settled_scanSymbol (isBlank : Text.isBlank blank = true) (first : Char)
    (characters : List Char) :
    SettledAt blank (fun rest => some (scanSymbol dialect first rest)) characters := by
  have noOperator := isOperatorCharacter_of_isBlank isBlank
  have again : ∀ tail, symbolAtStart? symbols (first :: (characters ++ blank :: tail)) =
      (symbolAtStart? symbols (first :: characters)).map fun (text, after) =>
        (text, after ++ blank :: tail) :=
    fun tail => symbolAtStart?_append (fun symbol member written =>
      Text.ne_of_isBlank isBlank ((symbols_plain member).2 blank written) rfl)
      (first :: characters) tail
  cases found : symbolAtStart? symbols (first :: characters) with
  | none =>
      exact .of_some _ characters (by rw [scanSymbol, found]) (List.suffix_refl _)
        fun tail => by rw [scanSymbol, again tail, found]; rfl
  | some read =>
      obtain ⟨text, after⟩ := read
      have afterIsEnd := suffix_of_symbolAtStart?
        (fun symbol member => (symbols_plain member).1) found
      by_cases extended : dialect = .postgresql ∧ extensible.contains text = true ∧
          after.takeWhile isOperatorCharacter ≠ []
      · refine .of_some
          (some (.operator (text ++ String.ofList (after.takeWhile isOperatorCharacter))))
          (after.dropWhile isOperatorCharacter) (by simp only [scanSymbol, found, if_pos extended])
          ((List.dropWhile_suffix _).trans afterIsEnd) fun tail => ?_
        simp only [scanSymbol, again tail, found, Option.map_some,
          takeWhile_append_blank _ noOperator, dropWhile_append_blank _ noOperator, if_pos extended]
      · refine .of_some (some (.symbol (symbolText text))) after
          (by simp only [scanSymbol, found, if_neg extended]) afterIsEnd fun tail => ?_
        simp only [scanSymbol, again tail, found, Option.map_some,
          takeWhile_append_blank _ noOperator, if_neg extended]

theorem isAlphanumeric_of_isBlank (isBlank : Text.isBlank blank = true) :
    isAlphanumeric blank = false := by
  simpa using Text.of_isBlank (fun character => !isAlphanumeric character) isBlank
    (by decide +kernel)

theorem settled_scanDollar (isBlank : Text.isBlank blank = true) (characters : List Char) :
    SettledAt blank scanDollar characters := by
  have notDollar := Text.ne_of_isBlank isBlank (by decide : Text.isBlank '$' = false)
  have noTag : (fun character => isAlphanumeric character || character == '_') blank = false := by
    simp [isAlphanumeric_of_isBlank isBlank,
      Text.ne_of_isBlank isBlank (by decide : Text.isBlank '_' = false)]
  have tagged := takeWhile_append_blank
    (fun character => isAlphanumeric character || character == '_') noTag characters
  have untagged := dropWhile_append_blank
    (fun character => isAlphanumeric character || character == '_') noTag characters
  fun_cases scanDollar characters with
  | case1 body =>
      exact (settled_untilDollars body).of_map
        (fun text => some (.string (.dollar "") (String.ofList text))) (List.suffix_cons _ _) rfl
        fun tail => rfl
  | case2 _ notDouble isTag body closed =>
      -- The closing tag is searched as one piece, and a blank is no part of it.
      have apart : blank ∉ '$' :: (characters.takeWhile isTag ++ ['$']) := by
        intro member
        have inTag : blank ∈ characters.takeWhile isTag := by simpa [notDollar] using member
        have accepted : isTag blank = true := List.mem_takeWhile_imp inTag
        exact Bool.false_ne_true (noTag.symm.trans accepted)
      refine (settled_splitOnce? apart body).of_map
        (fun text => some (.string (.dollar (String.ofList (characters.takeWhile isTag)))
          (String.ofList text)))
        ((List.suffix_cons _ _).trans (closed ▸ List.dropWhile_suffix isTag)) ?_ fun tail => ?_
      · rw [scanDollar]
        · simp only [isTag] at closed
          simp only [closed]
          rfl
        · exact notDouble
      · rw [scanDollar]
        · simp only [isTag] at closed
          simp only [tagged, untagged, closed]
          rfl
        · exact starts_append notDollar notDouble tail
  | case3 _ notDouble isTag notClosed =>
      refine .of_some (some (.placeholder (String.ofList ('$' :: characters.takeWhile isTag))))
        (characters.dropWhile isTag) ?_ (List.dropWhile_suffix _) fun tail => ?_
      · rw [scanDollar]
        · simp only
          split
          · next left closed => exact absurd closed (notClosed left)
          · rfl
        · exact notDouble
      · rw [scanDollar]
        · simp only [tagged, untagged]
          split
          · next left closed => exact absurd closed (starts_append notDollar notClosed tail left)
          · rfl
        · exact starts_append notDollar notDouble tail

theorem scanSign_hash (next : Char) (after : List Char) :
    scanSign dialect '#' (next :: after) =
      if next = '-' ∨ next = '>' then scanSymbol dialect '#' (next :: after)
      else if next = ' ' then (some (.symbol "#"), next :: after)
      else if dialect.startsName '#' then scanWord dialect ['#', next] after
      else scanSymbol dialect '#' (next :: after) := rfl

theorem scanSign_at {next : Char} (after : List Char) (single : next ≠ '@') :
    scanSign dialect '@' (next :: after) =
      if [' ', '\x27', '\x22', '\x60'].contains next then (some (.symbol "@"), next :: after)
      else if next = '>' ∨ next = '?' then scanSymbol dialect '@' (next :: after)
      else if dialect.startsName '@' then scanWord dialect ['@', next] after
      else (some (.symbol "@"), next :: after) := by
  rw [scanSign]
  · simp [single]
  · exact fun _ _ same => absurd same single

theorem scanSymbol_hash : scanSymbol dialect '#' [] = (some (.symbol "#"), []) := by
  have read : symbolAtStart? symbols ['#'] = some ("#", []) := by decide
  have spelled : symbolText "#" = "#" := by decide
  simp [scanSymbol, read, spelled]

theorem scanSymbol_at : scanSymbol dialect '@' [] = (some (.symbol "@"), []) := by
  have read : symbolAtStart? symbols ['@'] = some ("@", []) := by decide
  have spelled : symbolText "@" = "@" := by decide
  simp [scanSymbol, read, spelled]

theorem scanSymbol_twice_at : scanSymbol dialect '@' ['@'] = (some (.symbol "@@"), []) := by
  have read : symbolAtStart? symbols ['@', '@'] = some ("@@", []) := by decide
  have spelled : symbolText "@@" = "@@" := by decide
  simp [scanSymbol, read, spelled]

/-- Whether a sign at the end of some characters waits for a name after them. -/
def waits (dialect : Dialect) (sign : Char) (rest : List Char) : Bool :=
  dialect.startsName sign && (rest == [] || sign == '@' && rest == ['@'])

theorem settled_scanHash (isBlank : Text.isBlank blank = true)
    (refused : dialect.continuesName blank = false) {rest : List Char}
    (stays : waits dialect '#' rest = false) :
    SettledAt blank (fun rest => some (scanSign dialect '#' rest)) rest := by
  have notMinus := Text.ne_of_isBlank isBlank (by decide : Text.isBlank '-' = false)
  have notGreater := Text.ne_of_isBlank isBlank (by decide : Text.isBlank '>' = false)
  have symbol := @settled_scanSymbol dialect blank isBlank '#' rest
  cases rest with
  | nil =>
      have unnamed : dialect.startsName '#' = false := by simpa [waits] using stays
      refine .of_some (some (.symbol "#")) [] (congrArg some scanSymbol_hash)
        List.nil_suffix fun tail => ?_
      rw [List.nil_append, scanSign_hash, if_neg (by simp [notMinus, notGreater])]
      by_cases space : blank = ' '
      · rw [if_pos space]
      · rw [if_neg space, if_neg (by simp [unnamed])]
        exact (symbol (congrArg some scanSymbol_hash)).2 tail
  | cons next after =>
      by_cases more : next = '-' ∨ next = '>'
      · exact symbol.of_rest (List.suffix_refl _) (by rw [scanSign_hash, if_pos more])
          fun tail => by rw [List.cons_append, scanSign_hash, if_pos more]
      by_cases space : next = ' '
      · exact .of_some (some (.symbol "#")) (next :: after)
          (by rw [scanSign_hash, if_neg more, if_pos space]) (List.suffix_refl _)
          fun tail => by rw [List.cons_append, scanSign_hash, if_neg more, if_pos space]
      by_cases named : dialect.startsName '#' = true
      · exact (settled_scanWord refused ['#', next] after).of_rest (List.suffix_cons _ _)
          (by rw [scanSign_hash, if_neg more, if_neg space, if_pos named])
          fun tail => by
            rw [List.cons_append, scanSign_hash, if_neg more, if_neg space, if_pos named]
      · exact symbol.of_rest (List.suffix_refl _)
          (by rw [scanSign_hash, if_neg more, if_neg space, if_neg named])
          fun tail => by
            rw [List.cons_append, scanSign_hash, if_neg more, if_neg space, if_neg named]

theorem settled_scanAt (isBlank : Text.isBlank blank = true)
    (refused : dialect.continuesName blank = false) {rest : List Char}
    (stays : waits dialect '@' rest = false) :
    SettledAt blank (fun rest => some (scanSign dialect '@' rest)) rest := by
  have notAt := Text.ne_of_isBlank isBlank (by decide : Text.isBlank '@' = false)
  have notGreater := Text.ne_of_isBlank isBlank (by decide : Text.isBlank '>' = false)
  have notQuestion := Text.ne_of_isBlank isBlank (by decide : Text.isBlank '?' = false)
  cases rest with
  | nil =>
      have unnamed : ¬dialect.startsName '@' = true := by simpa [waits] using stays
      have noMore : ¬(blank = '>' ∨ blank = '?') := by simp [notGreater, notQuestion]
      refine .of_some (some (.symbol "@")) [] (congrArg some scanSymbol_at)
        List.nil_suffix fun tail => ?_
      rw [List.nil_append, scanSign_at tail notAt, if_neg noMore, if_neg unnamed, ite_self]
  | cons next after =>
      by_cases double : next = '@'
      · subst double
        cases after with
        | nil =>
            have unnamed : ¬dialect.startsName '@' = true := by simpa [waits] using stays
            refine .of_some (some (.symbol "@@")) [] (congrArg some scanSymbol_twice_at)
              List.nil_suffix fun tail => ?_
            rw [List.cons_append, List.nil_append, scanSign, if_neg fun both => unnamed both.2]
        | cons third after =>
            by_cases named : third ≠ ' ' ∧ dialect.startsName '@' = true
            · exact (settled_scanWord refused ['@', '@', third] after).of_rest ⟨['@', third], rfl⟩
                (by rw [scanSign, if_pos named])
                fun tail => by rw [List.cons_append, List.cons_append, scanSign, if_pos named]
            · exact .of_some (some (.symbol "@@")) (third :: after)
                (by rw [scanSign, if_neg named]) (List.suffix_cons _ _)
                fun tail => by rw [List.cons_append, List.cons_append, scanSign, if_neg named]
      by_cases stops : [' ', '\x27', '\x22', '\x60'].contains next = true
      · exact .of_some (some (.symbol "@")) (next :: after)
          (by rw [scanSign_at after double, if_pos stops]) (List.suffix_refl _)
          fun tail => by rw [List.cons_append, scanSign_at _ double, if_pos stops]
      by_cases more : next = '>' ∨ next = '?'
      · exact (settled_scanSymbol isBlank '@' (next :: after)).of_rest (List.suffix_refl _)
          (by rw [scanSign_at after double, if_neg stops, if_pos more])
          fun tail => by rw [List.cons_append, scanSign_at _ double, if_neg stops, if_pos more]
      by_cases named : dialect.startsName '@' = true
      · exact (settled_scanWord refused ['@', next] after).of_rest (List.suffix_cons _ _)
          (by rw [scanSign_at after double, if_neg stops, if_neg more, if_pos named])
          fun tail => by
            rw [List.cons_append, scanSign_at _ double, if_neg stops, if_neg more, if_pos named]
      · exact .of_some (some (.symbol "@")) (next :: after)
          (by rw [scanSign_at after double, if_neg stops, if_neg more, if_neg named])
          (List.suffix_refl _)
          fun tail => by
            rw [List.cons_append, scanSign_at _ double, if_neg stops, if_neg more, if_neg named]

end Sql

end OrmCode
