import OrmCode.CommandLine.Run

/-!
# Conversions on the command line

A run that is asked for the code of a statement prints what the converter of its settings
makes of it.  Every statement and every target can be given as arguments.
-/

namespace OrmCode

namespace CommandLine

/-- What a run gives over a system without effects. -/
def result {Value : Type} (step : Run Id Value) : Except Report Value :=
  Id.run step.run

section Conversion

variable {system : System Id} {arguments : List String} {given : Settings}
  {converter : Converter Id} {targetText sql : String}

/-- How a run ends. -/
def ending : Except Report Outcome → Outcome
  | .ok outcome => outcome
  | .error report => report.outcome

end Conversion

section Arguments

variable {path? : Option String} (targetText sql : String)

end Arguments

end CommandLine

end OrmCode
