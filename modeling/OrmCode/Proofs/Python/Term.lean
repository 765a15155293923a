import OrmCode.Proofs.Javascript.Term
import OrmCode.Proofs.Python.Token

/-!
# Terms of generated Python

A text spells terms if their tokens are read off it.  A text that ends with a bracket
or a quote does so whatever follows, and a text that ends with a word if what follows
ends the word.
-/

namespace OrmCode

namespace Python

open Javascript (Term Bracket isWord)

def terms? (text : String) : Option (List Term) :=
  match Javascript.read [{ bracket := .array }] (tokens text.toList) with
  | some [frame] => some frame.items.reverse
  | _ => none

/-- A text spells some terms whatever follows. -/
def Closed (text : String) (terms : List Term) : Prop :=
  ∀ rest, tokens (text.toList ++ rest) = terms.flatMap Term.tokens ++ tokens rest

/-- A text spells some terms, provided that what follows ends the last of its words. -/
def Spells (text : String) (terms : List Term) : Prop :=
  ∀ next rest, endsWord next = true →
    tokens (text.toList ++ next :: rest) = terms.flatMap Term.tokens ++ tokens (next :: rest)

/-- A text that ends every word before it and spells some terms itself. -/
def Delimits (text : String) (terms : List Term) : Prop :=
  (∃ first others, text.toList = first :: others ∧ endsWord first = true) ∧ Closed text terms

theorem delimits_comma : Delimits ", " [] :=
  ⟨⟨',', [' '], rfl, by decide⟩, fun _ => rfl⟩

theorem delimits_commaBreak : Delimits ",\n    " [] :=
  ⟨⟨',', ['\n', ' ', ' ', ' ', ' '], rfl, by decide⟩, fun _ => rfl⟩

theorem delimits_colon : Delimits ": " [] :=
  ⟨⟨':', [' '], rfl, by decide⟩, fun _ => rfl⟩

def Opens (opening : String) (bracket : Bracket) : Prop :=
  ∀ rest, tokens (opening.toList ++ rest) = .opens bracket :: tokens rest

/-- A text that ends every word and closes a bracket. -/
def Closes (closing : String) (bracket : Bracket) : Prop :=
  (∃ first others, closing.toList = first :: others ∧ endsWord first = true) ∧
    ∀ rest, tokens (closing.toList ++ rest) = .closes bracket.closing :: tokens rest

theorem opens_list : Opens "[" .array :=
  fun _ => rfl

theorem opens_listLines : Opens "[\n    " .array :=
  fun _ => rfl

theorem opens_dictionary : Opens "\x7b" .object :=
  fun _ => rfl

theorem opens_application : Opens "(" (.call "") :=
  fun _ => rfl

theorem opens_call {function : String} (word : isWord function = true) :
    Opens (function ++ "(") (.call function) := by
  intro rest
  rw [String.toList_append, List.append_assoc]
  exact tokens_call word rest

theorem closes_list : Closes "]" .array :=
  ⟨⟨']', [], rfl, by decide⟩, fun _ => rfl⟩

theorem closes_listLines : Closes ",\n]" .array :=
  ⟨⟨',', ['\n', ']'], rfl, by decide⟩, fun _ => rfl⟩

theorem closes_dictionary : Closes "\x7d" .object :=
  ⟨⟨'\x7d', [], rfl, by decide⟩, fun _ => rfl⟩

theorem closes_call (function : String) : Closes ")" (.call function) :=
  ⟨⟨')', [], rfl, by decide⟩, fun _ => rfl⟩

/-- What a text spells before a text that ends every word. -/
theorem Spells.before {text following : String} {terms : List Term} (spelled : Spells text terms)
    (ends : ∃ first others, following.toList = first :: others ∧ endsWord first = true)
    (rest : List Char) :
    tokens ((text ++ following).toList ++ rest) =
      terms.flatMap Term.tokens ++ tokens (following.toList ++ rest) := by
  obtain ⟨first, others, same, ends⟩ := ends
  rw [String.toList_append, List.append_assoc, same, List.cons_append]
  exact spelled first (others ++ rest) ends

namespace Closed

theorem nothing : Closed "" [] :=
  fun _ => rfl

theorem quoted (value : String) : Closed (Text.quoted value) [.text value] := by
  intro rest
  rw [tokens_quoted, List.flatMap_singleton, Term.tokens]
  rfl

theorem argument {name : String} (word : isWord name = true) :
    Closed (name ++ "=") [.word (name ++ "=")] := by
  intro rest
  rw [String.toList_append, List.append_assoc, List.flatMap_singleton, Term.tokens]
  exact tokens_argument word rest

theorem spells {text : String} {terms : List Term} (closed : Closed text terms) :
    Spells text terms :=
  fun next rest _ => closed (next :: rest)

theorem append {first second : String} {terms others : List Term} (closed : Closed first terms)
    (closedToo : Closed second others) : Closed (first ++ second) (terms ++ others) := by
  intro rest
  rw [String.toList_append, List.append_assoc, closed, closedToo, List.flatMap_append,
    List.append_assoc]

theorem append_spells {first second : String} {terms others : List Term}
    (closed : Closed first terms) (spelled : Spells second others) :
    Spells (first ++ second) (terms ++ others) := by
  intro next rest ends
  rw [String.toList_append, List.append_assoc, closed, spelled next rest ends,
    List.flatMap_append, List.append_assoc]

end Closed

namespace Spells

theorem word {text : String} (word : isWord text = true) : Spells text [.word text] := by
  intro next rest ends
  rw [tokens_word word ends, List.flatMap_singleton, Term.tokens]
  rfl

theorem delimited {text delimiter : String} {terms others : List Term}
    (spelled : Spells text terms) (delimits : Delimits delimiter others) :
    Closed (text ++ delimiter) (terms ++ others) := by
  intro rest
  rw [spelled.before delimits.1, delimits.2, List.flatMap_append, List.append_assoc]

theorem intercalate {separator : String} (delimits : Delimits separator []) {texts : List String}
    {terms : List (List Term)} (spelled : List.Forall₂ Spells texts terms) :
    Spells (separator.intercalate texts) terms.flatten := by
  induction spelled with
  | nil => exact Closed.nothing.spells
  | @cons text term texts terms here later induction =>
      cases later with
      | nil => simpa using here
      | cons next others =>
          have leading := here.delimited delimits
          rw [List.append_nil] at leading
          rw [String.intercalate_cons_cons, List.flatten_cons]
          exact leading.append_spells induction

/-- A pair of brackets around a text spells a list of the terms of the text. -/
theorem enclosed {opening text closing : String} {bracket : Bracket} {terms : List Term}
    (opens : Opens opening bracket) (closes : Closes closing bracket)
    (spelled : Spells text terms) :
    Closed (opening ++ text ++ closing) [.list bracket terms] := by
  intro rest
  have inside := spelled.before closes.1 rest
  rw [String.append_assoc, String.toList_append, List.append_assoc, opens, inside, closes.2,
    List.flatMap_singleton, Term.tokens, List.cons_append, List.append_assoc]
  rfl

end Spells

theorem terms?_of_closed {text : String} {terms : List Term} (closed : Closed text terms) :
    terms? text = some terms := by
  have spelled := closed []
  have found := @Javascript.read_flatMap terms (fun term _ => Javascript.read_tokens term)
    { bracket := .array } []
  rw [List.append_nil] at spelled
  rw [terms?, spelled]
  have nothing : tokens [] = [] := rfl
  rw [nothing, List.append_nil, found]
  simp

end Python

end OrmCode
