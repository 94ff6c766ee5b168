import LexicalScan.Position
import LexicalScan.Text.Quoted

namespace LexicalScan

open Text

structure Lexeme where
  text : Text
  start : Position
  deriving DecidableEq

namespace Lexeme

def endOffset (l : Lexeme) : Nat :=
  l.start.offset + size l.text

-- The quoted text and the position, as in `"while" @ 3:14`.
def describe (l : Lexeme) (hidden : Char → Bool := isHidden) : Text :=
  quoted l.text hidden ++ " @ ".toList ++ l.start.describe

end Lexeme
end LexicalScan
