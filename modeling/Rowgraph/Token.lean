import Rowgraph.Expr
import Rowgraph.Text.Doubled
import Rowgraph.Unicode.Uppercase

/-!
# Tokens

A statement is a list of tokens until it is handed to the server: words with a fixed spelling, and
tokens that carry a name or a number. How names are quoted and placeholders are written is said here
and nowhere else.
-/

set_option autoImplicit false

namespace Rowgraph

/-- The tokens with a fixed spelling. -/
inductive Word where
  | select
  | fromKw
  | whereKw
  | and
  | or
  | as
  | on
  | join
  | inner
  | left
  | groupBy
  | orderBy
  | asc
  | desc
  | offset
  | fetch
  | next
  | rows
  | only
  | top
  | like
  | notLike
  /-- Names the character that takes a pattern's next character literally. -/
  | likeEscape
  | isNull
  | isNotNull
  | distinct
  | null
  | cast
  | not
  | exists
  | ifKw
  | insert
  | into
  | values
  | update
  | set
  | delete
  | output
  | inserted
  | comma
  | dot
  | star
  | lparen
  | rparen
  | semicolon
  | eq
  | ne
  | lt
  | gt
  | lte
  | gte
  | space
  /-- The hint that lets a read see uncommitted rows. -/
  | noLock
  /-- The number of rows the last statement changed. -/
  | rowCount
  deriving DecidableEq

/-- A token of a statement. -/
inductive Token where
  | word (w : Word)
  /-- A bracketed name. -/
  | ident (name : String)
  /-- A table, by as much of its path as is needed. -/
  | table (database schema : Option String) (name : String)
  /-- An alias. Aliases are generated and need no brackets. -/
  | alias (name : String)
  /-- A placeholder of a parameter. -/
  | param (name : String)
  /-- A placeholder that is replaced by a literal before the statement runs. -/
  | inlineParam (name : String)
  | int (n : Int)
  | function (name : String)
  /-- The type in a cast. -/
  | type (name : String)
  deriving DecidableEq

instance : Coe Word Token := ⟨.word⟩

/-- The spelling of a word. -/
def Word.text : Word → String
  | .select => "SELECT"
  | .fromKw => "FROM"
  | .whereKw => "WHERE"
  | .and => "AND"
  | .or => "OR"
  | .as => "AS"
  | .on => "ON"
  | .join => "JOIN"
  | .inner => "INNER"
  | .left => "LEFT"
  | .groupBy => "GROUP BY"
  | .orderBy => "ORDER BY"
  | .asc => "ASC"
  | .desc => "DESC"
  | .offset => "OFFSET"
  | .fetch => "FETCH"
  | .next => "NEXT"
  | .rows => "ROWS"
  | .only => "ONLY"
  | .top => "TOP"
  | .like => "LIKE"
  | .notLike => "NOT LIKE"
  | .likeEscape => "ESCAPE '\\'"
  | .isNull => "IS NULL"
  | .isNotNull => "IS NOT NULL"
  | .distinct => "DISTINCT"
  | .null => "NULL"
  | .cast => "CAST"
  | .not => "NOT"
  | .exists => "EXISTS"
  | .ifKw => "IF"
  | .insert => "INSERT"
  | .into => "INTO"
  | .values => "VALUES"
  | .update => "UPDATE"
  | .set => "SET"
  | .delete => "DELETE"
  | .output => "OUTPUT"
  | .inserted => "INSERTED"
  | .comma => ","
  | .dot => "."
  | .star => "*"
  | .lparen => "("
  | .rparen => ")"
  | .semicolon => ";"
  | .eq => "="
  | .ne => "<>"
  | .lt => "<"
  | .gt => ">"
  | .lte => "<="
  | .gte => ">="
  | .space => " "
  | .noLock => "WITH (NOLOCK)"
  | .rowCount => "@@ROWCOUNT"

/-- A name in brackets, its closing brackets doubled. -/
def bracketed (name : String) : List Char :=
  '[' :: Doubled.encode ']' name.toList ++ [']']

/-- The schema of a table whose database is named and whose schema is not. -/
def defaultSchema : String := "dbo"

namespace Token

/-- The characters of a token. -/
def chars : Token → List Char
  | .word w => w.text.toList
  | .ident name => bracketed name
  | .table none none name => bracketed name
  | .table none (some schema) name => bracketed schema ++ '.' :: bracketed name
  | .table (some database) schema name =>
    bracketed database ++ '.' :: bracketed (schema.getD defaultSchema) ++ '.' :: bracketed name
  | .alias name => name.toList
  | .param name => '@' :: name.toList
  | .inlineParam name => ['\x7b', '='] ++ name.toList ++ ['\x7d']
  | .int n => (toString n).toList
  | .function name => Unicode.uppercase name.toList
  | .type name => Unicode.uppercase name.toList

/-- The text of a token. -/
def text (t : Token) : String := String.ofList t.chars

end Token

namespace Tokens

/-- The text of a list of tokens. -/
def text (ts : List Token) : String := String.ofList (ts.flatMap Token.chars)

/-- The tokens of each item, a comma and a space between one item and the next. -/
def separated : List (List Token) → List Token
  | [] => []
  | [item] => item
  | item :: next :: rest =>
    item ++ Token.word .comma :: Token.word .space :: separated (next :: rest)

/-- Tokens in parentheses. -/
def parenthesized (ts : List Token) : List Token :=
  Token.word .lparen :: ts ++ [Token.word .rparen]

/-- A word and a space. -/
def spaced (w : Word) : List Token := [.word w, .word .space]

/-- A clause that follows other tokens: a space, its word, a space and what belongs to it. -/
def clause (w : Word) (ts : List Token) : List Token := .word .space :: spaced w ++ ts

end Tokens

/-- The word that writes a comparison. -/
def Comparison.word : Comparison → Word
  | .eq => .eq
  | .ne => .ne
  | .lt => .lt
  | .gt => .gt
  | .lte => .lte
  | .gte => .gte

end Rowgraph
