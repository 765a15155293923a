import Mathlib.Data.List.Forall2
import OrmCode.Sql.Parse

/-!
# What readers take

A reader that succeeds takes tokens off the front and leaves the rest.  Readers in a
row take what each of them takes, and a list is read item by item.
-/

namespace OrmCode

namespace Sql

variable {Value Result : Type}

/-- A reader finds a value at the front of the tokens and leaves the rest. -/
def Reads (reader : Reader Value) (tokens : List Token) (value : Value) (rest : List Token) :
    Prop :=
  reader.run tokens = .ok (value, rest)

namespace Reads

theorem bind {reader : Reader Value} {next : Value → Reader Result}
    {tokens middle rest : List Token} {value : Value} {result : Result}
    (first : Reads reader tokens value middle) (second : Reads (next value) middle result rest) :
    Reads (reader >>= next) tokens result rest := by
  unfold Reads
  rw [StateT.run_bind, first]
  exact second

theorem pure (value : Value) (tokens : List Token) :
    Reads (Pure.pure value) tokens value tokens := rfl

theorem rest (tokens : List Token) : Reads Reader.rest tokens tokens tokens := rfl

theorem skip (token : Token) (rest : List Token) :
    Reads (Reader.skip 1) (token :: rest) () rest := rfl

theorem peek? (tokens : List Token) : Reads Reader.peek? tokens tokens.head? tokens := rfl

theorem nextIs (property : Token → Bool) (token : Token) (rest : List Token) :
    Reads (Reader.nextIs property) (token :: rest) (property token) (token :: rest) := rfl

theorem symbol (text : String) (rest : List Token) :
    Reads (Reader.symbol text) (.symbol text :: rest) true rest := by
  have next := Reads.nextIs (Token.isSymbol text) (.symbol text) rest
  rw [Token.isSymbol, beq_self_eq_true] at next
  exact next.bind rfl

theorem symbol_of_ne {text : String} {token : Token} (apart : token.isSymbol text = false)
    (rest : List Token) : Reads (Reader.symbol text) (token :: rest) false (token :: rest) := by
  have next := Reads.nextIs (Token.isSymbol text) token rest
  rw [apart] at next
  exact next.bind rfl

theorem expectSymbol (text : String) (rest : List Token) :
    Reads (Reader.expectSymbol text) (.symbol text :: rest) () rest :=
  (Reads.symbol text rest).bind rfl

theorem keyword_of_ne {word : String} {token : Token} (apart : token.isKeyword word = false)
    (rest : List Token) : Reads (Reader.keyword word) (token :: rest) false (token :: rest) := by
  have next := Reads.nextIs (Token.isKeyword word) token rest
  rw [apart] at next
  exact next.bind rfl

theorem keywords_of_ne {word : String} {token : Token} (apart : token.isKeyword word = false)
    (words : List String) (rest : List Token) :
    Reads (Reader.keywords (word :: words)) (token :: rest) false (token :: rest) := by
  have starts : Reader.startWith (word :: words) (token :: rest) = false := by
    rw [Reader.startWith, apart, Bool.false_and]
  refine (Reads.rest _).bind ?_
  rw [starts]
  rfl

theorem oneOf?_of_ne {words : List String} {token : Token}
    (apart : ∀ word ∈ words, token.isKeyword word = false) (rest : List Token) :
    Reads (Reader.oneOf? words) (token :: rest) none (token :: rest) := by
  have notFound : words.find? (fun word => (some token).any (Token.isKeyword word)) = none := by
    rw [List.find?_eq_none]
    intro word member
    rw [Option.any_some, apart word member]
    decide
  refine (Reads.peek? _).bind ?_
  rw [List.head?_cons, notFound]
  rfl

/-- A question that is denied is denied where it is not allowed as well. -/
theorem onlyIf_of_denied {question : Reader Bool} {tokens : List Token}
    (denied : Reads question tokens false tokens) (allowed : Bool) :
    Reads (Reader.onlyIf allowed question) tokens false tokens := by
  cases allowed with
  | true => exact denied
  | false => rfl

theorem textWhen_of_denied {condition : Reader Bool} {tokens : List Token}
    (denied : Reads condition tokens false tokens) (reader : Reader String) :
    Reads (Reader.textWhen condition reader) tokens "" tokens := by
  have absent : Reads (Reader.whenRead condition reader) tokens none tokens := denied.bind rfl
  exact absent.bind rfl

end Reads

/-- Every item but the last has a comma behind it. -/
theorem length_le_intercalate_comma (items : List (List Token)) :
    items.length ≤ ([Token.symbol ","].intercalate items).length + 1 := by
  induction items with
  | nil => exact Nat.zero_le _
  | cons first items induction =>
      cases items with
      | nil => simp
      | cons second items =>
          rw [List.intercalate_cons_cons, List.length_append, List.length_append, List.length_cons,
            List.length_singleton]
          omega

/-- A reader takes an item off the front, where a comma or a closing parenthesis follows. -/
def ReadsItem (reader : Reader Value) (item : List Token) (value : Value) : Prop :=
  ∀ next ∈ [Token.symbol ",", Token.symbol ")"], ∀ rest,
    Reads reader (item ++ next :: rest) value (next :: rest)

theorem reads_separatedWithin {reader : Reader Value} {items : List (List Token)}
    {values : List Value} (something : items ≠ [])
    (each : List.Forall₂ (ReadsItem reader) items values) (rest : List Token) {fuel : Nat}
    (enough : items.length ≤ fuel) :
    Reads (Reader.separatedWithin false reader fuel)
      ([Token.symbol ","].intercalate items ++ .symbol ")" :: rest) values
      (.symbol ")" :: rest) := by
  induction each generalizing fuel with
  | nil => exact absurd rfl something
  | @cons item value items values here later induction =>
      obtain ⟨fuel, rfl⟩ := Nat.exists_eq_succ_of_ne_zero (Nat.ne_zero_of_lt enough)
      have left := Nat.le_of_succ_le_succ enough
      cases later with
      | nil =>
          have read := here (.symbol ")") (by simp) rest
          rw [List.intercalate_singleton]
          exact read.bind rfl
      | @cons second secondValue others otherValues secondRead othersRead =>
          have others := induction (List.cons_ne_nil _ _) left
          rw [List.intercalate_cons_cons, List.append_assoc, List.append_assoc]
          refine (here (.symbol ",") (by simp) _).bind ?_
          refine (Reads.symbol "," _).bind ((Reads.peek? _).bind (others.bind ?_))
          rfl

/-- Items between commas are read up to the closing parenthesis. -/
theorem reads_separated {reader : Reader Value} {items : List (List Token)}
    {values : List Value} (something : items ≠ [])
    (each : List.Forall₂ (ReadsItem reader) items values) (rest : List Token) :
    Reads (Reader.separated false reader)
      ([Token.symbol ","].intercalate items ++ .symbol ")" :: rest) values
      (.symbol ")" :: rest) := by
  have enough := length_le_intercalate_comma items
  refine (Reads.rest _).bind (reads_separatedWithin something each rest ?_)
  rw [List.length_append]
  omega

/-- An item without anything behind it is the only one. -/
theorem reads_separated_only {reader : Reader Value} {tokens : List Token} {value : Value}
    (read : Reads reader tokens value []) (trailing : Bool) :
    Reads (Reader.separated trailing reader) tokens [value] [] := by
  refine (Reads.rest _).bind (read.bind ?_)
  rfl

/-- A keyword is found by its place in the list, without a comparison with those before it. -/
theorem keyword?_of_getElem? {word : String} (index : Nat)
    (listed : allKeywords[index]? = some word) (capitals : Text.capitals word = word) :
    (Token.word word none).keyword? = some word := by
  have member := List.mem_of_getElem? listed
  simp only [Token.keyword?, capitals, List.contains_iff_mem, member, if_true]

/-- A text whose tokens are all taken by one statement holds that statement. -/
theorem parse?_of_statement {dialect : Dialect} {text word : String} {quote? : Option Char}
    {tokens : List Token} {parsed : ParsedStatement}
    (scanned : scan dialect text = some (.word word quote? :: tokens))
    (read : Reads (statement dialect) (.word word quote? :: tokens) parsed []) :
    parse? dialect text = some [parsed] := by
  have noSemicolon : Reads (Reader.many (Reader.whenRead (Reader.symbol ";") (pure ())))
      (.word word quote? :: tokens) [] (.word word quote? :: tokens) := rfl
  have statements : Reads (Grammar.statements (statement dialect)) (.word word quote? :: tokens)
      [parsed] [] := by
    refine (Reads.rest _).bind (noSemicolon.bind ((Reads.rest _).bind ?_))
    simp only [List.isEmpty_cons, Bool.false_eq_true, if_false, Bool.true_or, Bool.not_true,
      Reader.onlyIf, pure_bind, if_true]
    refine Reads.bind read ?_
    rfl
  rw [parse?, scanned, Option.bind_some]
  unfold Reads at statements
  rw [statements]

/-- The grammar of the usual dialect with `depth` levels below it. -/
def plainGrammar (depth : Nat) : Grammar :=
  { dialect := .mysql, inColumn := false, deeper := level .mysql depth }

theorem parse?_of_reads {text word : String} {quote? : Option Char} {tokens : List Token}
    {parsed : ParsedStatement} (scanned : scan .mysql text = some (.word word quote? :: tokens))
    (read : Reads (plainGrammar 49).readStatement (.word word quote? :: tokens) parsed []) :
    parse? .mysql text = some [parsed] :=
  parse?_of_statement scanned read

end Sql

end OrmCode
