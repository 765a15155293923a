import OrmCode.Recorder

/-!
# What a converter reads

A converter gives a statement to its reader exactly if the target is known and the statement
is not blank.  A recording of what the reader is given shows this, and changes no answer.  Its
counter and its texts stay in step.
-/

namespace OrmCode

namespace Call

/-- Whether a call names a target: by its name between blanks, in any letter case. -/
def hasTarget (call : Call) : Bool :=
  (Target.all.map Target.name).contains (Text.lower (Text.trim call.target))

/-- Whether a call gets as far as the reader. -/
def isRead (call : Call) : Bool :=
  call.hasTarget && !Text.allBlank call.sql

theorem hasTarget_iff {call : Call} :
    call.hasTarget = true ↔ ∃ target, Target.ofText? call.target = some target := by
  rw [hasTarget, List.contains_iff_mem, List.mem_map]
  constructor
  · rintro ⟨target, -, named⟩
    exact ⟨target, Target.ofText?_eq_some_iff.mpr named.symm⟩
  · rintro ⟨target, found⟩
    exact ⟨target, Target.mem_all target, (Target.ofText?_eq_some_iff.mp found).symm⟩

theorem not_hasTarget_iff {call : Call} :
    call.hasTarget = false ↔ Target.ofText? call.target = none := by
  rw [← Bool.not_eq_true, hasTarget_iff, ← Option.isSome_iff_exists,
    Option.not_isSome_iff_eq_none]

end Call

/-- The statements among calls that get as far as the reader, first to last. -/
def readTexts (calls : List Call) : List String :=
  (calls.filter Call.isRead).map Call.sql

namespace Recording

/-- The recording after one more call of the reader. -/
def record (recording : Recording) (text : String) : Recording :=
  recording.countCall.keepText text

/-- The recording after some calls of a converter. -/
def extended (recording : Recording) (calls : List Call) : Recording :=
  (readTexts calls).foldl record recording

theorem extended_extended (recording : Recording) (before after : List Call) :
    (recording.extended before).extended after = recording.extended (before ++ after) := by
  rw [extended, extended, extended, ← List.foldl_append, readTexts, readTexts, readTexts,
    ← List.map_append, ← List.filter_append]

theorem extended_of_isRead (recording : Recording) {call : Call} (read : call.isRead = true) :
    recording.extended [call] = recording.record call.sql := by
  simp [extended, readTexts, read]

theorem extended_of_not_isRead (recording : Recording) {call : Call}
    (unread : call.isRead = false) : recording.extended [call] = recording := by
  simp [extended, readTexts, unread]

/-- The counter and the texts agree. -/
def IsCounted (recording : Recording) : Prop :=
  recording.calls = recording.texts.length

theorem isCounted_nil : IsCounted {} := rfl

/-- One call takes both of them one step further. -/
theorem IsCounted.record {recording : Recording} (counted : recording.IsCounted) (text : String) :
    (recording.record text).IsCounted := by
  have counts : recording.calls = recording.texts.length := counted
  change recording.calls + 1 = (recording.texts ++ [text]).length
  rw [List.length_append, List.length_singleton, counts]

theorem IsCounted.extended {recording : Recording} (counted : recording.IsCounted)
    (calls : List Call) : (recording.extended calls).IsCounted := by
  rw [Recording.extended]
  generalize readTexts calls = texts
  induction texts generalizing recording with
  | nil => exact counted
  | cons text texts induction => exact induction (counted.record text)

theorem texts_extended (recording : Recording) (calls : List Call) :
    (recording.extended calls).texts = recording.texts ++ readTexts calls := by
  rw [extended]
  generalize readTexts calls = texts
  induction texts generalizing recording with
  | nil => exact (List.append_nil _).symm
  | cons text texts induction => exact (induction _).trans (List.append_assoc _ _ _)

end Recording

namespace Converter

variable (converter : Converter Id)

theorem convert_of_unknown {call : Call} (unknown : call.hasTarget = false) :
    converter.convert call.target call.sql = .error (.unknownTarget call.target) := by
  rw [convert, Call.not_hasTarget_iff.mp unknown]
  rfl

/-- Recording changes no outcome, and it keeps every text that is not blank. -/
theorem run_recording_convertFor (target : Target) (text : String) (recording : Recording) :
    (converter.recording.convertFor target text).run recording =
      (converter.convertFor target text,
        if Text.allBlank text then recording else recording.record text) := by
  rw [convertFor, convertFor]
  by_cases blank : Text.allBlank text = true
  · rw [if_pos blank, if_pos blank, if_pos blank]
    rfl
  · have recorded : (converter.recording.read text).run recording =
        (converter.read text, recording.record text) := rfl
    rw [if_neg blank, if_neg blank, if_neg blank]
    simp only [StateT.run_bind, recorded]
    cases converter.read text <;> rfl

theorem run_recording_convert (call : Call) (recording : Recording) :
    (converter.recording.convert call.target call.sql).run recording =
      (converter.convert call.target call.sql, recording.extended [call]) := by
  cases found : Target.ofText? call.target with
  | none =>
      have unread : call.isRead = false := by
        rw [Call.isRead, Call.not_hasTarget_iff.mpr found, Bool.false_and]
      rw [recording.extended_of_not_isRead unread, convert, convert, found]
      rfl
  | some target =>
      have named : call.hasTarget = true := Call.hasTarget_iff.mpr ⟨target, found⟩
      have step := converter.run_recording_convertFor target call.sql recording
      simp only [convert, found, step]
      by_cases blank : Text.allBlank call.sql = true
      · rw [if_pos blank, recording.extended_of_not_isRead (by simp [Call.isRead, blank])]
      · rw [if_neg blank, recording.extended_of_isRead (by simp [Call.isRead, named, blank])]

theorem answers_cons (recording : Recording) (call : Call) (calls : List Call) :
    converter.answers recording (call :: calls) =
      (converter.convert call.target call.sql, recording.extended [call]) ::
        converter.answers (recording.extended [call]) calls := by
  rw [answers, run_recording_convert]

/-- Each call has the outcome that it has on its own, and the recording after it holds the
statements that were read so far. -/
theorem getElem?_answers (calls : List Call) (recording : Recording) (index : Nat) :
    (converter.answers recording calls)[index]? = calls[index]?.map fun call =>
      (converter.convert call.target call.sql, recording.extended (calls.take (index + 1))) := by
  induction calls generalizing recording index with
  | nil => rfl
  | cons call calls induction =>
      rw [answers_cons]
      cases index with
      | zero => rfl
      | succ index =>
          rw [List.getElem?_cons_succ, induction, List.getElem?_cons_succ,
            Recording.extended_extended]
          rfl

theorem length_answers (calls : List Call) (recording : Recording) :
    (converter.answers recording calls).length = calls.length := by
  induction calls generalizing recording with
  | nil => rfl
  | cons call calls induction => rw [answers_cons, List.length_cons, induction, List.length_cons]

/-- After each of several calls a recording holds, in order, the statements of the calls so far
that name a target and are not blank, and no others.  Every call has the outcome that it has
without a history; one that names no target fails for the text it gives, whatever its statement. -/
theorem answers_recorded (calls : List Call) :
    (converter.answers {} calls).length = calls.length ∧
    ∀ index call, calls[index]? = some call →
      ∃ recording,
        (converter.answers {} calls)[index]? =
          some (converter.convert call.target call.sql, recording) ∧
        recording.texts = ((calls.take (index + 1)).filter Call.isRead).map Call.sql ∧
        recording.calls = ((calls.take (index + 1)).filter Call.isRead).length ∧
        (call.hasTarget = false →
          converter.convert call.target call.sql = .error (.unknownTarget call.target)) := by
  refine ⟨converter.length_answers calls {}, fun index call given => ?_⟩
  have answered := converter.getElem?_answers calls {} index
  rw [given, Option.map_some] at answered
  have texts : (({} : Recording).extended (calls.take (index + 1))).texts =
      readTexts (calls.take (index + 1)) := Recording.texts_extended {} _
  have counted : (({} : Recording).extended (calls.take (index + 1))).IsCounted :=
    Recording.isCounted_nil.extended _
  refine ⟨_, answered, texts, ?_, converter.convert_of_unknown⟩
  rw [counted, texts, readTexts, List.length_map]

/-- Calls of which the first and the last one are read. -/
def mixedCalls : List Call :=
  [⟨" SeQuelize ", "SELECT * FROM users"⟩, ⟨"prisma", ""⟩, ⟨"sqlalchemy", " \n"⟩,
    ⟨"sqlalchemy", "SELEC"⟩]

theorem answers_mixedCalls :
    let converter : Converter Id := { read := Reading.read .mysql 65536, settings := {} }
    (∃ recording, (converter.answers {} mixedCalls)[1]? =
        some (.error (.unknownTarget "prisma"), recording) ∧
      recording.texts = ["SELECT * FROM users"]) ∧
    ∃ recording, (converter.answers {} mixedCalls)[3]? =
        some (converter.convert "sqlalchemy" "SELEC", recording) ∧
      recording.texts = ["SELECT * FROM users", "SELEC"] ∧ recording.calls = 2 := by
  intro converter
  obtain ⟨-, each⟩ := converter.answers_recorded mixedCalls
  obtain ⟨second, answered, texts, -, unknown⟩ := each 1 ⟨"prisma", ""⟩ rfl
  obtain ⟨fourth, answeredLast, textsLast, callsLast, -⟩ := each 3 ⟨"sqlalchemy", "SELEC"⟩ rfl
  have nameless : Call.hasTarget ⟨"prisma", ""⟩ = false := by decide
  refine ⟨⟨second, unknown nameless ▸ answered, texts.trans (by decide)⟩,
    fourth, answeredLast, textsLast.trans (by decide), callsLast.trans (by decide)⟩

end Converter

end OrmCode
