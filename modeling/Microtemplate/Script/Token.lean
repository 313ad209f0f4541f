/-!
The tokens of program texts: keywords, punctuators, identifiers, numbers and strings.
-/

namespace Microtemplate.Script

/-- The reserved words. -/
inductive Keyword where
  | breakWord
  | constWord
  | continueWord
  | elseWord
  | falseWord
  | forWord
  | functionWord
  | ifWord
  | inWord
  | letWord
  | nullWord
  | returnWord
  | trueWord
  | typeofWord
  | varWord
  | whileWord
  | withWord
deriving DecidableEq, Repr

namespace Keyword

/-- How a keyword is spelled. -/
def text : Keyword → String
  | breakWord => "break"
  | constWord => "const"
  | continueWord => "continue"
  | elseWord => "else"
  | falseWord => "false"
  | forWord => "for"
  | functionWord => "function"
  | ifWord => "if"
  | inWord => "in"
  | letWord => "let"
  | nullWord => "null"
  | returnWord => "return"
  | trueWord => "true"
  | typeofWord => "typeof"
  | varWord => "var"
  | whileWord => "while"
  | withWord => "with"

/-- All keywords. -/
def all : List Keyword :=
  [breakWord, constWord, continueWord, elseWord, falseWord, forWord, functionWord, ifWord, inWord,
    letWord, nullWord, returnWord, trueWord, typeofWord, varWord, whileWord, withWord]

/-- The keyword that a word spells, if it is one. -/
def ofText? (word : String) : Option Keyword := all.find? (·.text == word)

theorem mem_all (k : Keyword) : k ∈ all := by cases k <;> decide

theorem ofText?_text (k : Keyword) : ofText? k.text = some k := by cases k <;> decide +kernel

end Keyword

/-- The punctuators. -/
inductive Punctuator where
  | leftParen
  | rightParen
  | leftBrace
  | rightBrace
  | leftBracket
  | rightBracket
  | semicolon
  | comma
  | dot
  | ellipsis
  | colon
  | question
  | questionQuestion
  | assign
  | plusAssign
  | minusAssign
  | starAssign
  | slashAssign
  | percentAssign
  | plus
  | minus
  | star
  | slash
  | percent
  | plusPlus
  | minusMinus
  | bang
  | equal
  | notEqual
  | strictEqual
  | strictNotEqual
  | less
  | lessEqual
  | greater
  | greaterEqual
  | andAnd
  | orOr
deriving DecidableEq, Repr

namespace Punctuator

/-- The characters of a punctuator. -/
def chars : Punctuator → List Char
  | leftParen => ['(']
  | rightParen => [')']
  | leftBrace => ['\x7b']
  | rightBrace => ['\x7d']
  | leftBracket => ['[']
  | rightBracket => [']']
  | semicolon => [';']
  | comma => [',']
  | dot => ['.']
  | ellipsis => ['.', '.', '.']
  | colon => [':']
  | question => ['?']
  | questionQuestion => ['?', '?']
  | assign => ['=']
  | plusAssign => ['+', '=']
  | minusAssign => ['-', '=']
  | starAssign => ['*', '=']
  | slashAssign => ['/', '=']
  | percentAssign => ['%', '=']
  | plus => ['+']
  | minus => ['-']
  | star => ['*']
  | slash => ['/']
  | percent => ['%']
  | plusPlus => ['+', '+']
  | minusMinus => ['-', '-']
  | bang => ['!']
  | equal => ['=', '=']
  | notEqual => ['!', '=']
  | strictEqual => ['=', '=', '=']
  | strictNotEqual => ['!', '=', '=']
  | less => ['<']
  | lessEqual => ['<', '=']
  | greater => ['>']
  | greaterEqual => ['>', '=']
  | andAnd => ['&', '&']
  | orOr => ['|', '|']

/-- How a punctuator is spelled. -/
def text (p : Punctuator) : String := String.ofList p.chars

/-- All punctuators, longer ones first, so that the first that fits is the longest that fits. -/
def longestFirst : List Punctuator :=
  [ellipsis, strictEqual, strictNotEqual,
    questionQuestion, plusAssign, minusAssign, starAssign, slashAssign, percentAssign, plusPlus,
    minusMinus, equal, notEqual, lessEqual, greaterEqual, andAnd, orOr,
    leftParen, rightParen, leftBrace, rightBrace, leftBracket, rightBracket, semicolon, comma, dot,
    colon, question, assign, plus, minus, star, slash, percent, bang, less, greater]

/-- The longest punctuator that a text begins with. -/
def starting? (cs : List Char) : Option Punctuator :=
  longestFirst.find? fun p => p.chars.isPrefixOf cs

theorem mem_longestFirst (p : Punctuator) : p ∈ longestFirst := by cases p <;> decide

end Punctuator

/-- The tokens; the last one of a text is always `endOfInput`. -/
inductive Token where
  | identifier (name : String)
  | keyword (k : Keyword)
  | number (value : Float)
  | string (value : String)
  | punctuator (p : Punctuator)
  | endOfInput
deriving DecidableEq

/-- How a token is named in messages. -/
def Token.description : Token → String
  | identifier name => "identifier `" ++ name ++ "`"
  | keyword k => "`" ++ k.text ++ "`"
  | number _ => "number"
  | string _ => "string"
  | punctuator p => "`" ++ p.text ++ "`"
  | endOfInput => "end of input"

/-- A token in its text. Its place is given by the text that is left there. -/
structure Located where
  token : Token
  /-- Whether a line ends between the previous token and this one. -/
  newlineBefore : Bool
  /-- The text from the first character of the token on. -/
  text : List Char

end Microtemplate.Script
