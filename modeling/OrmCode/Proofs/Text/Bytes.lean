import OrmCode.Shell.Completion

/-!
# Positions that count bytes

Whole characters take a number of bytes, and a text is cut between two characters where
that number of bytes ends.
-/

namespace OrmCode

namespace Shell

@[simp] theorem byteCount_nil : byteCount [] = 0 := rfl

@[simp] theorem byteCount_append (first second : List Char) :
    byteCount (first ++ second) = byteCount first + byteCount second := by
  simp [byteCount]

@[simp] theorem byteCount_cons (character : Char) (characters : List Char) :
    byteCount (character :: characters) = character.utf8Size + byteCount characters := by
  simp [byteCount, String.ofList_cons]

/-- Bytes behind the first characters are taken from the others. -/
theorem firstBytes?_append (first rest : List Char) (count : Nat) :
    firstBytes? (byteCount first + count) (first ++ rest) =
      (firstBytes? count rest).map (first ++ ·) := by
  induction first with
  | nil =>
      rw [byteCount_nil, Nat.zero_add]
      exact Option.map_id'.symm
  | cons character first induction =>
      -- A character takes at least one byte, so the count is that of the third equation.
      obtain ⟨less, size⟩ := Nat.exists_eq_succ_of_ne_zero (Nat.ne_of_gt character.utf8Size_pos)
      have total : byteCount (character :: first) + count =
          less + byteCount first + count + 1 := by
        rw [byteCount_cons, size]
        omega
      have later : less + byteCount first + count + 1 - character.utf8Size =
          byteCount first + count := by
        omega
      rw [total, List.cons_append, firstBytes?, if_pos (by omega), later, induction,
        Option.map_map]
      rfl

/-- The bytes of the first characters are these characters. -/
theorem firstBytes?_byteCount (first rest : List Char) :
    firstBytes? (byteCount first) (first ++ rest) = some first := by
  rw [← Nat.add_zero (byteCount first), firstBytes?_append, firstBytes?, Option.map_some,
    List.append_nil]

theorem slice?_byteCount (before between after : List Char) :
    slice? (byteCount before) (byteCount (before ++ between)) (before ++ between ++ after) =
      some between := by
  rw [slice?, firstBytes?_byteCount, Option.bind_some, firstBytes?_byteCount, Option.map_some,
    List.drop_left]

/-- What follows the first characters is cut off behind their bytes. -/
theorem slice?_suffix (before after : List Char) :
    slice? (byteCount before) (byteCount (before ++ after)) (before ++ after) = some after := by
  simpa using slice?_byteCount before after []

/-- There is no cut behind a number of bytes at which no character ends. -/
theorem slice?_of_inside {before after : List Char} {count : Nat}
    (inside : firstBytes? count after = none) :
    slice? (byteCount before + count) (byteCount (before ++ after)) (before ++ after) = none := by
  have whole := firstBytes?_byteCount (before ++ after) []
  rw [List.append_nil] at whole
  rw [slice?, whole, Option.bind_some, firstBytes?_append, inside]
  rfl

end Shell

end OrmCode
