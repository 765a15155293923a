import OrmCode.Lowering.Table
import OrmCode.Proofs.Meaning.Condition
import OrmCode.Proofs.Text.LetterCase

/-!
# Defaults that expressions give

An expression behind DEFAULT is a constant, a call of the current time, or kept as its text.
-/

namespace OrmCode

namespace Lowering

/-- The default that an expression gives: itself if it is a constant, the current time if it calls
one of three functions, and its text otherwise. -/
inductive GivesDefault : Sql.Expr → DefaultValue → Prop
  | constant {expression : Sql.Expr} {value : Literal}
      (constant : expression.constant? = some value) : GivesDefault expression (.literal value)
  | currentTime {function : Sql.QualifiedName} {arguments : String}
      (listed : Text.lower (Sql.writeQualified function) ∈
        ["current_timestamp", "now", "localtimestamp"]) :
    GivesDefault (.call function arguments) .currentTimestamp
  | text {expression : Sql.Expr} (computed : expression.constant? = none)
      (other : ∀ function arguments, expression = .call function arguments →
        Text.lower (Sql.writeQualified function) ∉
          ["current_timestamp", "now", "localtimestamp"]) :
    GivesDefault expression (.expression expression.write)

theorem upper_mem_currentTimeFunctions_iff (name : String) :
    Text.upper name ∈ currentTimeFunctions ↔
      Text.lower name ∈ ["current_timestamp", "now", "localtimestamp"] :=
  Text.upper_mem_iff (by decide) (by decide)

theorem givesDefault_computedDefault {expression : Sql.Expr}
    (computed : expression.constant? = none) :
    GivesDefault expression (computedDefault expression) := by
  fun_cases computedDefault with
  | case1 function arguments listed =>
      refine .currentTime ((upper_mem_currentTimeFunctions_iff _).mp ?_)
      exact List.contains_iff_mem.mp listed
  | case2 function arguments unlisted =>
      refine .text computed fun other _ same listed => unlisted ?_
      obtain ⟨rfl, rfl⟩ := Sql.Expr.call.inj same
      exact List.contains_iff_mem.mpr ((upper_mem_currentTimeFunctions_iff _).mpr listed)
  | case3 other noCall => exact .text computed fun function arguments same => (noCall _ _ same).elim

theorem givesDefault_defaultValue (expression : Sql.Expr) :
    GivesDefault expression (defaultValue expression) := by
  rw [defaultValue]
  cases read : literal expression with
  | ok value => exact .constant ((expression.literal_eq_ok_iff value).mp read)
  | error fault =>
      refine givesDefault_computedDefault ?_
      rw [Option.eq_none_iff_forall_ne_some]
      intro value constant
      rw [(expression.literal_eq_ok_iff value).mpr constant] at read
      cases read

/-- An expression gives one default alone. -/
theorem GivesDefault.unique {expression : Sql.Expr} {value other : DefaultValue}
    (gives : GivesDefault expression value) (givesToo : GivesDefault expression other) :
    value = other := by
  cases gives with
  | constant constant =>
      cases givesToo with
      | constant again => exact congrArg _ (Option.some.inj (constant.symm.trans again))
      | currentTime listed => cases constant
      | text computed other => cases computed.symm.trans constant
  | currentTime listed =>
      cases givesToo with
      | constant constant => cases constant
      | currentTime again => rfl
      | text computed other => exact absurd listed (other _ _ rfl)
  | text computed noCall =>
      cases givesToo with
      | constant constant => cases computed.symm.trans constant
      | currentTime listed => exact absurd listed (noCall _ _ rfl)
      | text again other => rfl

theorem defaultValue_eq_iff (expression : Sql.Expr) (value : DefaultValue) :
    defaultValue expression = value ↔ GivesDefault expression value := by
  constructor
  · rintro rfl
    exact givesDefault_defaultValue expression
  · exact (givesDefault_defaultValue expression).unique

end Lowering

end OrmCode
