import OrmCode.Proofs.Converter.Length
import OrmCode.Proofs.Scan.Lines
import OrmCode.Shell.Session

/-!
# Statements over several lines of a session

A session joins the trimmed lines of a statement by blanks before it converts
them.  That gives what a conversion of the lines as they were written gives where
no line break belongs to a token and no comment ends with its line.  Behind such
a comment nothing of the statement is read.
-/

namespace OrmCode

namespace Shell

/-- A session that the start of a shell and some lines lead to. -/
inductive Reached (settings : Settings) (target : Target) : Session → Prop
  | start {session : Session} (started : Session.start settings target = .ok session) :
      Reached settings target session
  | step {session following : Session} {line : String} {reply : Reply}
      (before : Reached settings target session)
      (taken : session.step line = .next following reply) : Reached settings target following

namespace Session

variable {session following : Session} {line : String} {reply : Reply}

/-- Whether the converter of a session is the one that its settings describe. -/
def IsCurrent (session : Session) : Prop :=
  Converter.ofSettings session.settings = .ok session.converter

theorem IsCurrent.read (current : session.IsCurrent)
    (taken : session.read line = .next following reply) : following.IsCurrent := by
  unfold Session.read at taken
  dsimp only at taken
  split at taken <;> obtain ⟨rfl, -⟩ := Turn.next.inj taken <;> exact current

theorem IsCurrent.execute (current : session.IsCurrent) {command : Command}
    (taken : session.execute command = .next following reply) : following.IsCurrent := by
  cases command with
  | setTarget name =>
      simp only [Session.execute] at taken
      split at taken <;> obtain ⟨rfl, -⟩ := Turn.next.inj taken <;> exact current
  | setStrictness value =>
      simp only [Session.execute] at taken
      split at taken
      · next policy _ =>
          simp only [withPolicy] at taken
          split at taken
          · next converter usable =>
              obtain ⟨rfl, -⟩ := Turn.next.inj taken
              exact usable
          · cases taken
      · obtain ⟨rfl, -⟩ := Turn.next.inj taken
        exact current
  | _ =>
      obtain ⟨rfl, -⟩ := Turn.next.inj taken
      exact current

/-- A line leaves a session with the converter that its settings describe. -/
theorem IsCurrent.step (current : session.IsCurrent)
    (taken : session.step line = .next following reply) : following.IsCurrent := by
  unfold Session.step at taken
  dsimp only at taken
  split at taken
  · exact current.read taken
  · split at taken
    · obtain ⟨rfl, -⟩ := Turn.next.inj taken
      exact current
    · split at taken
      · cases taken
      · split at taken
        · exact current.execute taken
        · exact current.read taken

end Session

theorem isCurrent_of_reached {settings : Settings} {target : Target} {session : Session}
    (reached : Reached settings target session) : session.IsCurrent := by
  induction reached with
  | start started =>
      obtain ⟨converter, usable, rfl⟩ := Outcome.map_eq_ok.mp started
      exact usable
  | step before taken induction => exact induction.step taken

def endsStatement (line : String) : Bool :=
  (Text.trim line).toList.getLast? == some ';'

/-- Whether a line starts a statement where none is pending. -/
def startsStatement (line : String) : Bool :=
  Text.trim line != "" && (Text.trim line).toList.head? != some '.'

/-- Whether some lines make up one statement. -/
def isStatement (lines : List String) : Bool :=
  lines.head?.any startsStatement && lines.getLast?.any endsStatement &&
    lines.dropLast.all fun line => !endsStatement line

/-- The text that a session converts for some lines. -/
def joined (lines : List String) : String :=
  " ".intercalate (lines.map Text.trim)

/-- What is printed before something else is. -/
def Reply.before (reply : Reply) (others : Reply × Option Fault) : Reply × Option Fault :=
  ({ output := reply.output ++ others.1.output, errors := reply.errors ++ others.1.errors },
    others.2)

namespace Session

theorem replies_cons_of_next {session following : Session} {line : String} {reply : Reply}
    (taken : session.step line = .next following reply) (lines : List String) :
    session.replies (line :: lines) = reply.before (following.replies lines) := by
  rw [replies, taken]
  rfl

theorem step_of_pending {session : Session} (pending : session.pending ≠ "") (line : String) :
    session.step line = session.read (Text.trim line) := by
  rw [step, if_pos pending]

theorem step_of_startsStatement {session : Session} {line : String} (idle : session.pending = "")
    (starts : startsStatement line = true) : session.step line = session.read (Text.trim line) := by
  rw [startsStatement, Bool.and_eq_true, bne_iff_ne, bne_iff_ne] at starts
  obtain ⟨something, noCommand⟩ := starts
  have noExit : ¬(Text.trim line = ".exit" ∨ Text.trim line = ".quit") := by
    rintro (same | same) <;> exact noCommand (same ▸ rfl)
  rw [step, if_neg (by simp [idle]), if_neg something, if_neg noExit, if_neg noCommand]

theorem ends_extended {pending : String} (line : String) :
    (pending ++ " " ++ Text.trim line).toList.getLast? = some ';' ↔ endsStatement line = true := by
  have blank : " ".toList = [' '] := rfl
  rw [endsStatement, beq_iff_eq, String.toList_append, String.toList_append, blank,
    List.getLast?_append]
  cases (Text.trim line).toList.getLast? <;> simp

theorem read_of_pending {session : Session} (pending : session.pending ≠ "") (line : String) :
    session.read (Text.trim line) =
      if endsStatement line then
        .next { session with pending := "" }
          (session.converted (session.pending ++ " " ++ Text.trim line))
      else .next { session with pending := session.pending ++ " " ++ Text.trim line } {} := by
  simp only [Session.read, extended, if_neg pending, ends_extended]

theorem intercalate_extended (pending line : String) (lines : List String) :
    " ".intercalate ((pending ++ " " ++ line) :: lines) =
      " ".intercalate (pending :: line :: lines) := by
  cases lines with
  | nil => simp [String.intercalate_cons_cons]
  | cons next lines => simp [String.intercalate_cons_cons, String.append_assoc]

/-- What is printed for a statement does not depend on what is pending. -/
theorem converted_pending (session : Session) (pending text : String) :
    ({ session with pending } : Session).converted text = session.converted text := rfl

theorem before_empty (others : Reply × Option Fault) : ({} : Reply).before others = others := by
  simp [Reply.before]

/-- A pending statement is converted once, when a line ends it. -/
theorem replies_of_pending {session : Session} (pending : session.pending ≠ "")
    {lines : List String} (last : lines.getLast?.any endsStatement = true)
    (others : (lines.dropLast.all fun line => !endsStatement line) = true)
    (following : List String) :
    session.replies (lines ++ following) =
      (session.converted (" ".intercalate (session.pending :: lines.map Text.trim))).before
        (({ session with pending := "" } : Session).replies following) := by
  -- Every line but the last makes the pending text longer, so the session varies.
  induction lines generalizing session with
  | nil => simp at last
  | cons line lines induction =>
      cases lines with
      | nil =>
          have ends : endsStatement line = true := by simpa using last
          have taken := (step_of_pending pending line).trans (read_of_pending pending line)
          rw [if_pos ends] at taken
          rw [List.singleton_append, replies_cons_of_next taken, List.map_singleton,
            ← intercalate_extended, String.intercalate_singleton]
      | cons next lines =>
          rw [List.dropLast_cons_cons, List.all_cons, Bool.and_eq_true] at others
          have goesOn : ¬endsStatement line = true := by simpa using others.1
          have taken := (step_of_pending pending line).trans (read_of_pending pending line)
          rw [if_neg goesOn] at taken
          have longer : session.pending ++ " " ++ Text.trim line ≠ "" := by
            intro nothing
            have empty := congrArg String.toList nothing
            simp at empty
          have later := @induction
            { session with pending := session.pending ++ " " ++ Text.trim line } longer
            (by simpa using last) others.2
          rw [List.cons_append, replies_cons_of_next taken, before_empty, later,
            intercalate_extended, converted_pending]
          rfl

theorem read_of_idle {session : Session} (idle : session.pending = "") (line : String) :
    session.read (Text.trim line) =
      if endsStatement line then
        .next { session with pending := "" } (session.converted (Text.trim line))
      else .next { session with pending := Text.trim line } {} := by
  simp only [Session.read, extended, if_pos idle, endsStatement, beq_iff_eq]

/-- The lines of a statement are converted once, trimmed and joined by blanks,
and leave the session as it was. -/
theorem replies_of_isStatement {session : Session} (idle : session.pending = "")
    {lines : List String} (one : isStatement lines = true) (following : List String) :
    session.replies (lines ++ following) =
      (session.converted (joined lines)).before (session.replies following) := by
  have unchanged : { session with pending := "" } = session := by
    rw [← idle]
  rw [isStatement, Bool.and_eq_true, Bool.and_eq_true] at one
  obtain ⟨⟨first, last⟩, others⟩ := one
  cases lines with
  | nil => simp at first
  | cons line lines =>
      have starts : startsStatement line = true := by simpa using first
      have taken := (step_of_startsStatement idle starts).trans (read_of_idle idle line)
      cases lines with
      | nil =>
          have ends : endsStatement line = true := by simpa using last
          rw [if_pos ends, unchanged] at taken
          rw [List.singleton_append, replies_cons_of_next taken, joined, List.map_singleton,
            String.intercalate_singleton]
      | cons next lines =>
          rw [List.dropLast_cons_cons, List.all_cons, Bool.and_eq_true] at others
          have goesOn : ¬endsStatement line = true := by simpa using others.1
          rw [if_neg goesOn] at taken
          have something : Text.trim line ≠ "" := by
            rw [startsStatement, Bool.and_eq_true, bne_iff_ne] at starts
            exact starts.1
          have later := @replies_of_pending { session with pending := Text.trim line } something
            (next :: lines) (by simpa using last) others.2 following
          have trimmed : (line :: next :: lines).map Text.trim =
              Text.trim line :: (next :: lines).map Text.trim := List.map_cons
          dsimp only at later
          rw [unchanged, converted_pending] at later
          rw [List.cons_append, replies_cons_of_next taken, before_empty, later, joined, trimmed]

end Session

/-- What a converter makes of a text: the code, or the code of the fault. -/
def outcome (converter : Converter Id) (target : Target) (text : String) :
    Except String String :=
  (Id.run (converter.convertFor target text)).mapError Fault.code

/-- The lines of a text as they were written. -/
def asWritten (lines : List String) : String :=
  "\n".intercalate lines

theorem utf8ByteSize_trim_le (line : String) :
    (Text.trim line).utf8ByteSize ≤ line.utf8ByteSize := by
  obtain ⟨before, after, written, -⟩ := Sql.exists_trimmed line.toList
  have same : line = String.ofList before ++ (Text.trim line ++ String.ofList after) := by
    rw [Text.trim, ← String.ofList_append, ← String.ofList_append, ← written, String.ofList_toList]
  have size := congrArg String.utf8ByteSize same
  rw [String.utf8ByteSize_append, String.utf8ByteSize_append] at size
  omega

/-- What a session converts is no longer than the lines as they were written. -/
theorem utf8ByteSize_joined_le (lines : List String) :
    (joined lines).utf8ByteSize ≤ (asWritten lines).utf8ByteSize := by
  rw [joined, asWritten]
  induction lines with
  | nil => exact Nat.le_refl _
  | cons line lines induction =>
      have first := utf8ByteSize_trim_le line
      cases lines with
      | nil => simpa using first
      | cons next lines =>
          have blank : " ".utf8ByteSize = 1 := rfl
          have feed : "\n".utf8ByteSize = 1 := rfl
          rw [List.map_cons] at induction
          rw [List.map_cons, List.map_cons, String.intercalate_cons_cons,
            String.intercalate_cons_cons, String.utf8ByteSize_append, String.utf8ByteSize_append,
            String.utf8ByteSize_append, String.utf8ByteSize_append, blank, feed]
          omega

theorem allBlank_intercalate {separator : String} (blank : Text.allBlank separator = true)
    (texts : List String) :
    Text.allBlank (separator.intercalate texts) = texts.all Text.allBlank := by
  induction texts with
  | nil => rfl
  | cons text texts induction =>
      cases texts with
      | nil => simp
      | cons next texts =>
          rw [String.intercalate_cons_cons, Text.allBlank_append, Text.allBlank_append, induction,
            blank, Bool.and_true]
          rfl

theorem allBlank_trim (line : String) : Text.allBlank (Text.trim line) = Text.allBlank line := by
  obtain ⟨before, after, written, beforeCut, afterCut⟩ := Sql.exists_trimmed line.toList
  have isBlank : ∀ character ∈ Sql.cutOff line.toList, Text.isBlank character = true := by
    intro character member
    rcases List.mem_append.mp member with leading | trailing
    · exact List.mem_takeWhile_imp leading
    · exact List.mem_takeWhile_imp trailing
  have beforeBlank : before.all Text.isBlank = true :=
    List.all_eq_true.mpr fun character member => isBlank character (beforeCut character member)
  have afterBlank : after.all Text.isBlank = true :=
    List.all_eq_true.mpr fun character member => isBlank character (afterCut character member)
  rw [Text.allBlank, Text.allBlank, written, List.all_append, List.all_append, beforeBlank,
    afterBlank, Bool.true_and, Bool.and_true, Text.trim, String.toList_ofList]

/-- What a session converts is blank where the lines are. -/
theorem allBlank_joined (lines : List String) :
    Text.allBlank (joined lines) = Text.allBlank (asWritten lines) := by
  rw [joined, asWritten, allBlank_intercalate (by decide +kernel),
    allBlank_intercalate (by decide +kernel), List.all_map]
  have same : Text.allBlank ∘ Text.trim = Text.allBlank := by
    funext line
    rw [Function.comp_apply, allBlank_trim]
  rw [same]

theorem onlyStatement_of_scan {dialect : Sql.Dialect} {text other : String}
    (same : Sql.scan dialect text = Sql.scan dialect other) :
    Reading.onlyStatement dialect text = Reading.onlyStatement dialect other := by
  rw [Reading.onlyStatement, Reading.onlyStatement, Sql.parse?, Sql.parse?, same]

/-- A converter makes the same of two texts with the same tokens, one of which is
no longer than the other, unless only the longer one is too long. -/
theorem outcome_of_scan {settings : Settings} {converter : Converter Id} {target : Target}
    {dialect : Sql.Dialect} {text other : String}
    (current : Converter.ofSettings settings = .ok converter)
    (known : settings.dialect? = .ok dialect)
    (blank : Text.allBlank text = Text.allBlank other)
    (tokens : Sql.scan dialect text = Sql.scan dialect other)
    (size : settings.maxLength < text.utf8ByteSize ↔ settings.maxLength < other.utf8ByteSize) :
    outcome converter target text = outcome converter target other := by
  by_cases nothing : Text.allBlank other = true
  · rw [outcome, outcome, Converter.run_convertFor, Converter.run_convertFor, blank,
      if_pos nothing, if_pos nothing]
  · have visibleOther : Text.allBlank other = false := by simpa using nothing
    rw [outcome, outcome, Converter.convertFor_of_visible known current visibleOther,
      Converter.convertFor_of_visible known current (blank.trans visibleOther)]
    by_cases long : settings.maxLength < other.utf8ByteSize
    · rw [if_pos long, if_pos (size.mpr long)]
      rfl
    · rw [if_neg long, if_neg fun longer => long (size.mp longer), Converter.convertContent,
        Reading.readContent, onlyStatement_of_scan tokens]
      rfl

theorem dialect?_of_isCurrent {session : Session} (current : session.IsCurrent) :
    ∃ dialect, session.settings.dialect? = .ok dialect :=
  Settings.exists_dialect?_of_validate (Converter.exists_ofSettings_iff.mp ⟨_, current⟩)

/-- A statement over several lines is converted exactly once.  What is made of it
is what is made of the lines as they were written, provided that the line breaks
stand apart from the tokens, or that the tokens stay the same in some other way,
and that no text is short enough only because its lines were trimmed.  The tokens
are always those of the lines up to the first that ends within a comment. -/
theorem conversion_of_isStatement {settings : Settings} {target : Target} {session : Session}
    {lines : List String} (reached : Reached settings target session)
    (idle : session.pending = "") (one : isStatement lines = true) :
    (∀ following, session.replies (lines ++ following) =
      (session.converted (joined lines)).before (session.replies following)) ∧
    ∃ dialect, session.settings.dialect? = .ok dialect ∧
      Converter.ofSettings session.settings = .ok session.converter ∧
      (Sql.breaksStandApart dialect lines = true ∨
          Sql.scan dialect (joined lines) = Sql.scan dialect (asWritten lines) →
        (asWritten lines).utf8ByteSize ≤ session.settings.maxLength ∨
          session.settings.maxLength < (joined lines).utf8ByteSize →
        outcome session.converter session.target (joined lines) =
          outcome session.converter session.target (asWritten lines)) ∧
      ((∀ line ∈ lines, '\n' ∉ line.toList) →
        Sql.scan dialect (joined lines) =
          Sql.scan dialect (joined (Sql.upToComment dialect .between lines))) := by
  have current := isCurrent_of_reached reached
  obtain ⟨dialect, known⟩ := dialect?_of_isCurrent current
  have once := fun following => Session.replies_of_isStatement idle one following
  refine ⟨once, dialect, known, current, ?_, ?_⟩
  · intro breaks size
    have tokens : Sql.scan dialect (joined lines) = Sql.scan dialect (asWritten lines) := by
      rcases breaks with apart | same
      · rw [joined, asWritten, Sql.scan_joined apart]
      · exact same
    have shorter := utf8ByteSize_joined_le lines
    exact outcome_of_scan current known (allBlank_joined lines) tokens (by omega)
  · intro oneByOne
    rw [joined, joined, Sql.scan_upToComment oneByOne]

/-- A query with a comment over a line break, an empty line and an indented one. -/
def commentedQuery : List String :=
  ["SELECT a /* one", "or two */ FROM users", "", "  WHERE a = 'x';"]

/-- A session under the default settings. -/
def firstSession : Session :=
  { settings := {}
    converter := { read := Reading.read .mysql ({} : Settings).maxLength, settings := {} }
    target := .sequelize }

theorem conversion_of_commentedQuery :
    (∀ following, firstSession.replies (commentedQuery ++ following) =
      (firstSession.converted (joined commentedQuery)).before (firstSession.replies following)) ∧
    outcome firstSession.converter firstSession.target (joined commentedQuery) =
      outcome firstSession.converter firstSession.target (asWritten commentedQuery) ∧
    Sql.scan .mysql (joined commentedQuery) =
      Sql.scan .mysql (joined (Sql.upToComment .mysql .between commentedQuery)) := by
  have reached : Reached {} .sequelize firstSession := .start rfl
  obtain ⟨once, dialect, known, -, same, read⟩ :=
    conversion_of_isStatement reached rfl (by decide +kernel : isStatement commentedQuery = true)
  obtain rfl : Sql.Dialect.mysql = dialect := Except.ok.inj known
  have apart : Sql.breaksStandApart .mysql commentedQuery = true := by decide +kernel
  have short : (asWritten commentedQuery).utf8ByteSize ≤ firstSession.settings.maxLength := by
    decide +kernel
  have converted := same (.inl apart) (.inl short)
  have oneByOne : ∀ line ∈ commentedQuery, '\n' ∉ line.toList := by decide +kernel
  have readTokens := read oneByOne
  exact ⟨once, converted, readTokens⟩

/-- Nothing but the first line is read of a statement whose condition follows a comment. -/
example : Sql.upToComment .mysql .between ["DELETE FROM users -- old", "WHERE id = 1;"] =
    ["DELETE FROM users -- old"] := by
  decide +kernel

end Shell

end OrmCode
