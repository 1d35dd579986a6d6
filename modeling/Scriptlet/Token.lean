/-
Scriptlet.Token — the words of a script.

A token has a kind, the text it was written as, its place, and a value that it
carries. The kind alone decides where a token fits into a script. What it
carries is looked at only in a name and in a literal; in a script that is
scanned, `Token.Kind.payload` says what that is.
-/
import Scriptlet.Text.Quoted
import Scriptlet.Value

namespace Scriptlet

/-- The signs of the language. -/
inductive Mark
  | leftParen
  | rightParen
  | leftBrace
  | rightBrace
  | comma
  | dot
  | minus
  | plus
  | semicolon
  | star
  | slash
  | bang
  | bangEqual
  | equal
  | equalEqual
  | less
  | lessEqual
  | greater
  | greaterEqual
  deriving DecidableEq, Repr

def Mark.spelling : Mark → String
  | .leftParen => "("
  | .rightParen => ")"
  | .leftBrace => "\x7b"
  | .rightBrace => "\x7d"
  | .comma => ","
  | .dot => "."
  | .minus => "-"
  | .plus => "+"
  | .semicolon => ";"
  | .star => "*"
  | .slash => "/"
  | .bang => "!"
  | .bangEqual => "!="
  | .equal => "="
  | .equalEqual => "=="
  | .less => "<"
  | .lessEqual => "<="
  | .greater => ">"
  | .greaterEqual => ">="

def Mark.all : List Mark :=
  [.leftParen, .rightParen, .leftBrace, .rightBrace, .comma, .dot, .minus, .plus, .semicolon,
   .star, .slash, .bang, .bangEqual, .equal, .equalEqual, .less, .lessEqual, .greater,
   .greaterEqual]

/-- The reserved words. Some have no use yet and are only kept from being names. -/
inductive Keyword
  | andWord
  | classWord
  | elseWord
  | falseWord
  | funWord
  | forWord
  | ifWord
  | nilWord
  | orWord
  | printWord
  | returnWord
  | superWord
  | thisWord
  | trueWord
  | varWord
  | whileWord
  deriving DecidableEq, Repr

def Keyword.spelling : Keyword → String
  | .andWord => "and"
  | .classWord => "class"
  | .elseWord => "else"
  | .falseWord => "false"
  | .funWord => "fun"
  | .forWord => "for"
  | .ifWord => "if"
  | .nilWord => "nil"
  | .orWord => "or"
  | .printWord => "print"
  | .returnWord => "return"
  | .superWord => "super"
  | .thisWord => "this"
  | .trueWord => "true"
  | .varWord => "var"
  | .whileWord => "while"

def Keyword.all : List Keyword :=
  [.andWord, .classWord, .elseWord, .falseWord, .funWord, .forWord, .ifWord, .nilWord, .orWord,
   .printWord, .returnWord, .superWord, .thisWord, .trueWord, .varWord, .whileWord]

def Keyword.ofSpelling? (word : String) : Option Keyword :=
  Keyword.all.find? fun k => k.spelling = word

inductive Token.Kind
  /-- A sign. -/
  | mark (mark : Mark)
  /-- A reserved word. -/
  | keyword (word : Keyword)
  /-- A name. -/
  | identifier
  /-- A text between double quotes. -/
  | text
  /-- A number. -/
  | number
  /-- A kind that the grammar has no place for. No scan answers it. -/
  | foreign (name : String)
  /-- The end of the script. -/
  | finish
  deriving DecidableEq

namespace Token.Kind

/-- The name of a kind: signs stand for themselves, reserved words are written
in capitals. -/
def name : Token.Kind → String
  | .mark m => m.spelling
  | .keyword k => k.spelling.toUpper
  | .identifier => "IDENTIFIER"
  | .text => "STRING"
  | .number => "NUMBER"
  | .foreign name => name
  | .finish => "<END>"

def all : List Token.Kind :=
  [.identifier, .text, .number, .finish] ++ Mark.all.map .mark ++ Keyword.all.map .keyword

def ofName (name : String) : Token.Kind :=
  (all.find? fun kind => kind.name = name).getD (.foreign name)

/-- What a token of this kind carries when it is written so: the name, the
contents between the quotes, the number, or `nil` for nothing. -/
def payload (lexeme : List Char) : Token.Kind → Value
  | .identifier => .text (String.ofList lexeme)
  | .text => .text (String.ofList (lexeme.drop 1).dropLast)
  | .number => .number (Decimal.ofNumeral lexeme).toFloat
  | _ => .nil

end Token.Kind

/-- A token: its kind, its text, the line it starts on, what it carries, and the
offset of its first character. -/
structure Token where
  kind : Token.Kind
  lexeme : String
  line : Int
  payload : Value := .nil
  start : Nat
  deriving DecidableEq

namespace Token

def stop (t : Token) : Nat := t.start + t.lexeme.length

def isFinish (t : Token) : Bool := t.kind == .finish

/-- The name that a token stands for: the text it carries, and else its own. -/
def name (t : Token) : String :=
  match t.payload with
  | .text s => s
  | _ => t.lexeme

def describe (t : Token) : String :=
  let carried :=
    match t.payload with
    | .nil => ""
    | .boolean b => " " ++ Value.word b
    | .number x => " " ++ Number.describe x
    | .text s => " " ++ Text.quoted s
  "<" ++ t.kind.name ++ carried ++ " line " ++ toString t.line ++ ">"

end Token

end Scriptlet
