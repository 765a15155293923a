import Mathlib.Data.List.Forall2
import OrmCode.Proofs.Javascript.Token

/-!
# Terms of generated JavaScript

The tokens of generated code nest by its brackets.  Reading keeps the brackets
that are open, and finds again the terms that a text spells.
-/

namespace OrmCode

namespace Javascript

/-- The sign that ends what a bracket encloses. -/
def Bracket.closing : Bracket → Char
  | array => ']'
  | object => '\x7d'
  | call _ => ')'

/-- A term of generated code.  The keys and the values of an object take turns. -/
inductive Term
  | word (spelling : String)
  | text (value : String)
  | list (bracket : Bracket) (items : List Term)

namespace Term

/-- What holds of all leaves and of each list if it holds of the items of the list
holds of all terms. -/
@[elab_as_elim, induction_eliminator]
theorem induction {motive : Term → Prop} (word : ∀ spelling, motive (word spelling))
    (text : ∀ value, motive (text value))
    (list : ∀ bracket items, (∀ item ∈ items, motive item) → motive (list bracket items)) :
    ∀ term, motive term
  | .word spelling => word spelling
  | .text value => text value
  | .list bracket items => list bracket items fun item _ => induction word text list item

def tokens : Term → List Token
  | word spelling => [.word spelling]
  | text value => [.text value]
  | list bracket items => .opens bracket :: (items.flatMap tokens ++ [.closes bracket.closing])

end Term

/-- An open bracket with what has been read behind it, the latest first. -/
structure Frame where
  bracket : Bracket
  items : List Term := []

def Frame.push (frame : Frame) (term : Term) : Frame :=
  { frame with items := term :: frame.items }

/-- The open brackets after a token. -/
def step : List Frame → Token → Option (List Frame)
  | frame :: frames, .word spelling => some (frame.push (.word spelling) :: frames)
  | frame :: frames, .text value => some (frame.push (.text value) :: frames)
  | frames, .opens bracket => some ({ bracket } :: frames)
  | frame :: outer :: frames, .closes sign =>
    if sign = frame.bracket.closing then
      some (outer.push (.list frame.bracket frame.items.reverse) :: frames)
    else none
  | _, _ => none

/-- The open brackets after some tokens. -/
def read : List Frame → List Token → Option (List Frame)
  | frames, [] => some frames
  | frames, token :: tokens => (step frames token).bind fun following => read following tokens

def terms? (text : String) : Option (List Term) :=
  match read [{ bracket := .array }] (tokens text.toList) with
  | some [frame] => some frame.items.reverse
  | _ => none

theorem read_append (frames : List Frame) (first second : List Token) :
    read frames (first ++ second) = (read frames first).bind (read · second) := by
  induction first generalizing frames with
  | nil => rfl
  | cons token first induction =>
      rw [List.cons_append, read, read, Option.bind_assoc]
      exact congrArg _ (funext induction)

theorem read_flatMap {terms : List Term}
    (each : ∀ term ∈ terms, ∀ frame frames,
      read (frame :: frames) term.tokens = some (frame.push term :: frames))
    (frame : Frame) (frames : List Frame) :
    read (frame :: frames) (terms.flatMap Term.tokens) =
      some ({ frame with items := terms.reverse ++ frame.items } :: frames) := by
  induction terms generalizing frame with
  | nil => rfl
  | cons term terms induction =>
      obtain ⟨here, later⟩ := List.forall_mem_cons.mp each
      rw [List.flatMap_cons, read_append, here, Option.bind_some, induction later,
        List.reverse_cons, List.append_assoc]
      rfl

/-- Reading the tokens of a term adds that term to the innermost open bracket. -/
theorem read_tokens (term : Term) (frame : Frame) (frames : List Frame) :
    read (frame :: frames) term.tokens = some (frame.push term :: frames) := by
  induction term generalizing frame frames with
  | word spelling =>
      rw [Term.tokens]
      rfl
  | text value =>
      rw [Term.tokens]
      rfl
  | list bracket items induction =>
      rw [Term.tokens, read, step, Option.bind_some, read_append, read_flatMap induction,
        Option.bind_some, List.append_nil, read, step, if_pos rfl, List.reverse_reverse]
      rfl

theorem terms?_of_tokens {text : String} {terms : List Term}
    (spelled : tokens text.toList = terms.flatMap Term.tokens) : terms? text = some terms := by
  have found := @read_flatMap terms (fun term _ => read_tokens term) { bracket := .array } []
  rw [terms?, spelled, found]
  simp

/-- A text spells some terms if their tokens are read off it, provided that what
follows ends the last of its words. -/
def Spells (text : String) (terms : List Term) : Prop :=
  ∀ next rest, endsWord next = true →
    tokens (text.toList ++ next :: rest) = terms.flatMap Term.tokens ++ tokens (next :: rest)

/-- A text that ends every word and stands for no token. -/
def Separates (separator : String) : Prop :=
  ∃ first others, separator.toList = first :: others ∧ endsWord first = true ∧
    ∀ rest, tokens (first :: (others ++ rest)) = tokens rest

theorem separates_comma : Separates ", " :=
  ⟨',', [' '], rfl, by decide, fun _ => rfl⟩

theorem separates_commaBreak : Separates ",\n  " :=
  ⟨',', ['\n', ' ', ' '], rfl, by decide, fun _ => rfl⟩

theorem separates_colon : Separates ": " :=
  ⟨':', [' '], rfl, by decide, fun _ => rfl⟩

theorem separates_blank : Separates " " :=
  ⟨' ', [], rfl, by decide, fun _ => rfl⟩

theorem separates_semicolon : Separates ";" :=
  ⟨';', [], rfl, by decide, fun _ => rfl⟩

def Opens (opening : String) (bracket : Bracket) : Prop :=
  ∀ rest, tokens (opening.toList ++ rest) = .opens bracket :: tokens rest

/-- A text that ends every word and closes a bracket. -/
def Closes (closing : String) (bracket : Bracket) : Prop :=
  ∃ first others, closing.toList = first :: others ∧ endsWord first = true ∧
    ∀ rest, tokens (first :: (others ++ rest)) = .closes bracket.closing :: tokens rest

theorem opens_array : Opens "[" .array :=
  fun _ => rfl

theorem opens_arrayLines : Opens "[\n  " .array :=
  fun _ => rfl

theorem opens_object : Opens "\x7b " .object :=
  fun _ => rfl

theorem opens_call {function : String} (word : isWord function = true) :
    Opens (function ++ "(") (.call function) := by
  intro rest
  have bracket : "(".toList = ['('] := rfl
  rw [String.toList_append, bracket, List.append_assoc, List.singleton_append, tokens_call word]

theorem closes_array : Closes "]" .array :=
  ⟨']', [], rfl, by decide, fun _ => rfl⟩

theorem closes_arrayLines : Closes "\n]" .array :=
  ⟨'\n', [']'], rfl, by decide, fun _ => rfl⟩

theorem closes_object : Closes " \x7d" .object :=
  ⟨' ', ['\x7d'], rfl, by decide, fun _ => rfl⟩

theorem closes_call (function : String) : Closes ")" (.call function) :=
  ⟨')', [], rfl, by decide, fun _ => rfl⟩

namespace Spells

theorem nothing : Spells "" [] :=
  fun _ _ _ => rfl

theorem word {text : String} (word : isWord text = true) : Spells text [.word text] := by
  intro next rest ends
  rw [tokens_word word ends, List.flatMap_singleton, Term.tokens]
  rfl

theorem quoted (value : String) : Spells (Text.quoted value) [.text value] := by
  intro next rest _
  rw [Text.quoted_toList, tokens_quoted, List.flatMap_singleton, Term.tokens, String.ofList_toList]
  rfl

theorem append {first second separator : String} {terms others : List Term}
    (separates : Separates separator) (spelled : Spells first terms)
    (spelledToo : Spells second others) :
    Spells (first ++ separator ++ second) (terms ++ others) := by
  obtain ⟨leading, trailing, same, ends, passed⟩ := separates
  intro next rest endsToo
  rw [String.toList_append, String.toList_append, same, List.append_assoc, List.append_assoc,
    List.cons_append, spelled _ _ ends, passed, spelledToo _ _ endsToo, List.flatMap_append,
    List.append_assoc]

theorem intercalate {separator : String} (separates : Separates separator) {texts : List String}
    {terms : List (List Term)} (spelled : List.Forall₂ Spells texts terms) :
    Spells (separator.intercalate texts) terms.flatten := by
  induction spelled with
  | nil => exact nothing
  | @cons text term texts terms here later induction =>
      cases later with
      | nil => simpa using here
      | cons next others =>
          rw [String.intercalate_cons_cons, List.flatten_cons]
          exact append separates here induction

/-- A pair of brackets around a text spells a list of the terms of the text. -/
theorem enclosed {opening text closing : String} {bracket : Bracket} {terms : List Term}
    (opens : Opens opening bracket) (closes : Closes closing bracket)
    (spelled : Spells text terms) :
    Spells (opening ++ text ++ closing) [.list bracket terms] := by
  obtain ⟨first, others, same, ends, closed⟩ := closes
  intro next rest _
  rw [String.toList_append, String.toList_append, same, List.append_assoc, List.append_assoc,
    List.cons_append, opens, spelled _ _ ends, closed, List.flatMap_singleton, Term.tokens,
    List.cons_append, List.append_assoc]
  rfl

end Spells

/-- The terms of a text are found when it ends with a separator. -/
theorem terms?_of_spells {text separator : String} {terms : List Term}
    (separates : Separates separator) (spelled : Spells text terms) :
    terms? (text ++ separator) = some terms := by
  obtain ⟨first, others, same, ends, passed⟩ := separates
  apply terms?_of_tokens
  have nothing := passed []
  rw [List.append_nil] at nothing
  rw [String.toList_append, same, spelled _ _ ends, nothing]
  exact List.append_nil _

end Javascript

end OrmCode
