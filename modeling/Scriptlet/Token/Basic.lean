import Scriptlet.Text.Quoted
import Scriptlet.Value

/-!
# Tokens

The words and marks of the language. A token keeps the bytes it was read from, the line it ends on
and, for number and text literals, the value it denotes. Token lists can also be built by hand, so a
token's kind may be one that no source produces.
-/

namespace Scriptlet

/-- The reserved words. -/
inductive Keyword where
  | andWord
  | breakWord
  | classWord
  | continueWord
  | elseWord
  | falseWord
  | forWord
  | funWord
  | ifWord
  | inWord
  | isWord
  | loopWord
  | nilWord
  | notWord
  | orWord
  | printWord
  | returnWord
  | superWord
  | thisWord
  | trueWord
  | valWord
  | varWord
  | whileWord
  deriving DecidableEq, Repr

namespace Keyword

/-- How a reserved word is written. -/
def spelling : Keyword → String
  | .andWord => "and"
  | .breakWord => "break"
  | .classWord => "class"
  | .continueWord => "continue"
  | .elseWord => "else"
  | .falseWord => "false"
  | .forWord => "for"
  | .funWord => "fun"
  | .ifWord => "if"
  | .inWord => "in"
  | .isWord => "is"
  | .loopWord => "loop"
  | .nilWord => "nil"
  | .notWord => "not"
  | .orWord => "or"
  | .printWord => "print"
  | .returnWord => "return"
  | .superWord => "super"
  | .thisWord => "this"
  | .trueWord => "true"
  | .valWord => "val"
  | .varWord => "var"
  | .whileWord => "while"

/-- The text of a reserved word. -/
def text (keyword : Keyword) : Text :=
  Scriptlet.text keyword.spelling

/-- All reserved words, in the order of their spelling. -/
def all : List Keyword :=
  [.andWord, .breakWord, .classWord, .continueWord, .elseWord, .falseWord, .forWord, .funWord,
    .ifWord, .inWord, .isWord, .loopWord, .nilWord, .notWord, .orWord, .printWord, .returnWord,
    .superWord, .thisWord, .trueWord, .valWord, .varWord, .whileWord]

/-- The reserved word that a text spells. -/
def ofText? (word : Text) : Option Keyword :=
  all.find? fun keyword => keyword.text = word

/-- The reserved words that open a statement: recovery after a syntax fault stops before them. -/
def leadsStatement : Keyword → Bool
  | .classWord | .funWord | .varWord | .valWord | .forWord | .ifWord | .whileWord | .loopWord
  | .printWord | .returnWord => true
  | _ => false

end Keyword

/-- The lexical categories. -/
inductive TokenKind where
  | leftParen
  | rightParen
  | leftBrace
  | rightBrace
  | comma
  | dot
  | minus
  | plus
  | semicolon
  | slash
  | star
  | bang
  | bangEqual
  | bangIn
  | equal
  | equalEqual
  | greater
  | greaterEqual
  | less
  | lessEqual
  | identifier
  | string
  | number
  | keyword (word : Keyword)
  | eof
  | other (name : String)
  deriving DecidableEq, Repr

namespace TokenKind

/-- The name of a category: its spelling for marks, a word in capitals for the others. -/
def name : TokenKind → String
  | .leftParen => "("
  | .rightParen => ")"
  | .leftBrace => "\x7b"
  | .rightBrace => "\x7d"
  | .comma => ","
  | .dot => "."
  | .minus => "-"
  | .plus => "+"
  | .semicolon => ";"
  | .slash => "/"
  | .star => "*"
  | .bang => "!"
  | .bangEqual => "!="
  | .bangIn => "!in"
  | .equal => "="
  | .equalEqual => "=="
  | .greater => ">"
  | .greaterEqual => ">="
  | .less => "<"
  | .lessEqual => "<="
  | .identifier => "IDENTIFIER"
  | .string => "STRING"
  | .number => "NUMBER"
  | .keyword word => word.spelling.toUpper
  | .eof => "EOF"
  | .other name => name

/-- The categories that sources produce. -/
def all : List TokenKind :=
  [.leftParen, .rightParen, .leftBrace, .rightBrace, .comma, .dot, .minus, .plus, .semicolon,
    .slash, .star, .bang, .bangEqual, .bangIn, .equal, .equalEqual, .greater, .greaterEqual, .less,
    .lessEqual, .identifier, .string, .number, .eof] ++ Keyword.all.map .keyword

/-- The category with a name; a name of no category is a category of its own. -/
def ofName (name : String) : TokenKind :=
  (all.find? fun kind => kind.name = name).getD (.other name)

end TokenKind

/-- A word or mark of a source. -/
structure Token where
  kind : TokenKind
  lexeme : Text := []
  literal : Option Value := none
  line : Int
  deriving DecidableEq

namespace Token

/-- A line that describes a token. -/
def text (token : Token) : Text :=
  Scriptlet.text token.kind.name ++ Scriptlet.text " " ++ Quoted.ofText token.lexeme ++
    (match token.literal with
      | some value => Scriptlet.text " " ++ value.inspect
      | none => []) ++
    Scriptlet.text " (line " ++ Text.ofInt token.line ++ Scriptlet.text ")"

end Token

end Scriptlet
