import LexicalScan.Lexer.Basic
import LexicalScan.Session

namespace LexicalScan

namespace Lexer

inductive Command
  | analyze (source : Text)
  | next
  | nth (n : Nat)
  | drain
  | lexemes
  | grammar
  deriving DecidableEq

inductive Reply
  | nothing
  | token (token : Option Token)
  | tokens (tokens : List Token)
  | lexemes (lexemes : List Lexeme)
  | grammar (grammar : Grammar)
  deriving DecidableEq

def run (l : Lexer) : Command → Reply × Lexer
  | .analyze source => (.nothing, l.analyze source)
  | .next => let (token, l) := l.next; (.token token, l)
  | .nth n => let (token, l) := l.nth n; (.token token, l)
  | .drain => let (tokens, l) := l.drain; (.tokens tokens, l)
  | .lexemes => (.lexemes l.scan.lexemes, l)
  | .grammar => (.grammar l.grammar, l)

abbrev Reached (g : Grammar) : Lexer → Prop :=
  Session.Reached run { grammar := g }

end Lexer
end LexicalScan
