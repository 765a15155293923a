import OrmCode.Sql.Grammar.Basic

/-!
# Precedence of operators

An operator binds its operands the more tightly the higher its precedence is.
Tokens that continue no expression have the precedence zero.
-/

namespace OrmCode

namespace Sql

/-- How tightly each family of operators binds. -/
structure Precedences where
  cast : Nat
  subscript : Nat
  collation : Nat
  timeZone : Nat
  product : Nat
  sum : Nat
  exclusive : Nat
  bitAnd : Nat
  power : Nat
  shift : Nat
  bitOr : Nat
  concatenation : Nat
  overlap : Nat
  comparison : Nat
  between : Nat
  like : Nat
  is : Nat
  special : Nat
  negation : Nat
  conjunction : Nat
  disjunction : Nat

namespace Precedences

/-- The precedences of most dialects. -/
def common : Precedences where
  cast := 50
  subscript := 50
  collation := 0
  timeZone := 41
  product := 40
  sum := 30
  exclusive := 24
  bitAnd := 23
  power := 22
  shift := 22
  bitOr := 21
  concatenation := 40
  overlap := 50
  comparison := 20
  between := 20
  like := 19
  is := 17
  special := 16
  negation := 15
  conjunction := 10
  disjunction := 5

def postgresql : Precedences where
  cast := 140
  subscript := 130
  collation := 120
  timeZone := 110
  product := 90
  sum := 80
  exclusive := 75
  bitAnd := 70
  power := 100
  shift := 70
  bitOr := 70
  concatenation := 70
  overlap := 70
  comparison := 50
  between := 60
  like := 60
  is := 40
  special := 70
  negation := 30
  conjunction := 20
  disjunction := 10

def ofDialect : Dialect → Precedences
  | .postgresql => postgresql
  | _ => common

/-- The precedence of an operator that is written as a symbol. -/
def ofSymbol (levels : Precedences) (dialect : Dialect) : String → Nat
  | "=" | "<" | "<=" | "<>" | ">" | ">=" | "==" | "~" | "~*" | "!~" | "!~*" | "~~" | "~~*"
  | "!~~" | "!~~*" | "<=>" => levels.comparison
  | "|" => levels.bitOr
  | "^" => levels.power
  | "#" | ">>" | "<<" => levels.shift
  | "&" => levels.bitAnd
  | "+" | "-" => levels.sum
  | "*" | "/" | "//" | "%" => levels.product
  | "||" => levels.concatenation
  | "::" => levels.cast
  | "[" => levels.subscript
  | "!" | "&&" | "^@" => levels.overlap
  | "->" | "->>" | "#>" | "#>>" | "@>" | "<@" | "#-" | "@?" | "@@" | "?" | "?&" | "?|" =>
    levels.special
  | ":" => if dialect = .snowflake then levels.cast else 0
  | _ => 0

/-- The precedence of the operators that NOT may stand before. -/
def ofNegatable (levels : Precedences) : String → Nat
  | "IN" | "BETWEEN" => levels.between
  | "LIKE" | "ILIKE" | "RLIKE" | "REGEXP" | "SIMILAR" => levels.like
  | _ => 0

/-- The precedence of an operator that starts with a keyword, by the tokens after it. -/
def ofKeyword (levels : Precedences) (inColumn : Bool) (after : List Token) : String → Nat
  | "OR" => levels.disjunction
  | "AND" => levels.conjunction
  | "XOR" => levels.exclusive
  | "AT" => if Reader.startWith ["TIME", "ZONE"] after then levels.timeZone else 0
  | "NOT" => (after.head?.bind Token.keyword?).elim 0 levels.ofNegatable
  | "IS" => levels.is
  | "OPERATOR" => levels.between
  | "DIV" => levels.product
  | "COLLATE" => if inColumn then 0 else levels.collation
  | word => levels.ofNegatable word

end Precedences

namespace Grammar

/-- The precedences of the dialect. -/
def levels (grammar : Grammar) : Precedences :=
  .ofDialect grammar.dialect

/-- The precedence of the operator that some tokens start with, or zero. -/
def precedenceOf (grammar : Grammar) : List Token → Nat
  | [] => 0
  | .symbol text :: _ => grammar.levels.ofSymbol grammar.dialect text
  | .operator _ :: _ => grammar.levels.special
  | token :: after => token.keyword?.elim 0 (grammar.levels.ofKeyword grammar.inColumn after)

end Grammar

end Sql

end OrmCode
