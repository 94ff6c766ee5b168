import LexicalScan.Grammar
import LexicalScan.Lexeme

namespace LexicalScan

open Text

namespace Token

inductive Kind
  | keyword (text : Text)
  | symbol (text : Text)
  | identifier
  | number
  | string
  deriving DecidableEq

namespace Kind

def tag : Kind → Text
  | keyword text | symbol text => text
  | identifier => "IDENT".toList
  | number => "NUMBER".toList
  | string => "STRING".toList

def isLiteral : Kind → Text → Bool
  | keyword text, t | symbol text, t => text == t
  | _, _ => false

end Kind
end Token

structure Token where
  kind : Token.Kind
  lexeme : Lexeme
  deriving DecidableEq

-- The kind of a text: a number before all else, then a string literal, a keyword, a symbol, and an
-- identifier if it is none of these.
def Grammar.classify (g : Grammar) (t : Text) : Token.Kind :=
  if isNumber t then .number
  else if g.string.any (·.encloses t) then .string
  else if g.isKeyword t then .keyword t
  else if g.isSymbol t then .symbol t
  else .identifier

def Grammar.token (g : Grammar) (l : Lexeme) : Token where
  kind := g.classify l.text
  lexeme := l

-- The tag and the lexeme, as in `IDENT "x" @ 3:14`.
def Token.describe (t : Token) (hidden : Char → Bool := isHidden) : Text :=
  t.kind.tag ++ ' ' :: t.lexeme.describe hidden

end LexicalScan
