import LexicalScan.Delimiters
import LexicalScan.Vocabulary

namespace LexicalScan

structure Grammar where
  keywords : Vocabulary := .empty
  symbols : Vocabulary := .empty
  string : Option Delimiters := none
  lineComment : Option Marker := none
  blockComment : Option Delimiters := none
  deriving DecidableEq

namespace Grammar

inductive Setting
  | keywords (words : List Text)
  | symbols (words : List Text)
  | string (opening closing : Text)
  | lineComment (marker : Text)
  | blockComment (opening closing : Text)
  deriving DecidableEq

-- Replaces one part. Empty and repeated words are dropped, and an empty marker takes its construct
-- out of the grammar.
def set (g : Grammar) : Setting → Grammar
  | .keywords words => { g with keywords := .ofList words }
  | .symbols words => { g with symbols := .ofList words }
  | .string opening closing => { g with string := Delimiters.ofTexts? opening closing }
  | .lineComment marker => { g with lineComment := Marker.ofText? marker }
  | .blockComment opening closing => { g with blockComment := Delimiters.ofTexts? opening closing }

def ofSettings (settings : List Setting) : Grammar :=
  settings.foldl set {}

def isKeyword (g : Grammar) (t : Text) : Bool :=
  g.keywords.contains t

def isSymbol (g : Grammar) (t : Text) : Bool :=
  g.symbols.contains t

end Grammar
end LexicalScan
