import LexicalScan.Text.Basic
import LexicalScan.Text.DefaultIgnorable
import LexicalScan.Text.ExtendingMark
import LexicalScan.Text.Unprintable

namespace LexicalScan

namespace Text

-- Whether a character is written by its code point: it would not show, or would show as a part of
-- the character before it.
def isHidden (c : Char) : Bool :=
  isUnprintable c || isDefaultIgnorable c || isExtendingMark c

def codeEscape (c : Char) : Text :=
  "\\u\x7b".toList ++ hexadecimal c.toNat ++ "\x7d".toList

def escape (hidden : Char → Bool) (c : Char) : Text :=
  match c with
  | '\x00' => ['\\', '0']
  | '\t' => ['\\', 't']
  | '\r' => ['\\', 'r']
  | '\n' => ['\\', 'n']
  | '\"' => ['\\', '\"']
  | '\\' => ['\\', '\\']
  | c => if hidden c then codeEscape c else [c]

def quoted (t : Text) (hidden : Char → Bool := isHidden) : Text :=
  '\"' :: t.flatMap (escape hidden) ++ ['\"']

end Text
end LexicalScan
