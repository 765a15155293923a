import OrmCode.Converter
import OrmCode.Proofs.Reading

/-!
# Conversion with the default settings

A text that is not blank, not too long and read as one statement becomes the code of
that statement.
-/

namespace OrmCode

theorem Converter.convertFor_of_read {converter : Converter Id} {text : String}
    {statement : Statement} (visible : Text.allBlank text = false)
    (read : converter.read text = .ok statement) (target : Target) :
    converter.convertFor target text =
      converter.handlers.generate converter.settings statement target := by
  rw [convertFor, if_neg (by simp [visible])]
  change (match converter.read text with
    | .ok statement => converter.handlers.generate converter.settings statement target
    | .error fault => .error fault) = _
  rw [read]

/-- The converter of the default settings. -/
def usualConverter : Converter Id where
  read := Reading.read .mysql 65536
  settings := {}

theorem convert_eq_convertFor (target : Target) (text : String) :
    convert target.name text = usualConverter.convertFor target text := by
  have settled : Converter.ofSettings {} = .ok usualConverter := rfl
  have chosen :
      usualConverter.convert target.name text = usualConverter.convertFor target text := by
    rw [Converter.convert, Target.ofText?_name]
  have run : ∀ next : Converter Id → Except Fault String,
      (Except.ok usualConverter >>= next) = next usualConverter := fun _ => rfl
  rw [convert, settled, run, chosen, Id.run]

/-- Under the default settings a text that is read as one statement becomes its code. -/
theorem convert_of_parse? {text : String} {parsed : Sql.ParsedStatement} {statement : Statement}
    (visible : Text.allBlank text = false) (short : text.utf8ByteSize ≤ 65536)
    (parsedOnce : Sql.parse? .mysql text = some [parsed])
    (lowered : Lowering.statement parsed = .ok statement) (target : Target) :
    convert target.name text = HandlerTable.complete.generate {} statement target := by
  have read : Reading.read .mysql 65536 text = .ok statement :=
    Reading.read_eq_ok_iff.mpr ⟨visible, short, parsed, parsedOnce, lowered⟩
  rw [convert_eq_convertFor]
  exact Converter.convertFor_of_read visible read target

end OrmCode
