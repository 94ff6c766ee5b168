import LexicalScan.Scan
import LexicalScan.Token

namespace LexicalScan

-- A grammar, the latest source and its scan, and the number of lexemes read so far. A new lexer has
-- the empty source.
structure Lexer where
  grammar : Grammar
  source : Text := []
  scan : Scan := {}
  read : Nat := 0
  deriving DecidableEq

namespace Lexer

def analyze (l : Lexer) (source : Text) : Lexer where
  grammar := l.grammar
  source
  scan := l.grammar.scan source

def remaining (l : Lexer) : Nat :=
  l.scan.lexemes.length - l.read

def bounds (l : Lexer) : Nat × Option Nat :=
  (l.remaining, some l.remaining)

-- The number of tokens still to come, if the bounds agree on it.
def count? (l : Lexer) : Option Nat :=
  let (least, greatest) := l.bounds
  if greatest = some least then some least else none

def next (l : Lexer) : Option Token × Lexer :=
  match l.scan.lexemes[l.read]? with
  | some lexeme => (l.grammar.token lexeme, { l with read := l.read + 1 })
  | none => (none, l)

def pass (l : Lexer) (n : Nat) : Lexer :=
  { l with read := l.read + min n l.remaining }

def nth (l : Lexer) (n : Nat) : Option Token × Lexer :=
  (l.pass n).next

def rest (l : Lexer) : List Token :=
  (l.scan.lexemes.drop l.read).map l.grammar.token

def drain (l : Lexer) : List Token × Lexer :=
  (l.rest, l.pass l.remaining)

end Lexer
end LexicalScan
