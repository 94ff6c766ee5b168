import LexicalScan.Cursor.Basic
import LexicalScan.Session

namespace LexicalScan

namespace Cursor

inductive Command
  | look
  | startsWith (text : Text)
  | firstMatch (candidates : List Text)
  | longestMatch (candidates : List Text)
  | advance
  | advanceBy (n : Nat)
  | skipToLineEnd
  | skipTo (target : Text)
  | setMark
  | clearMark
  | takeSpan
  deriving DecidableEq

inductive Reply
  | nothing
  | truth (value : Bool)
  | candidate (text : Option Text)
  | span (lexeme : Option Lexeme)
  deriving DecidableEq

def run (c : Cursor) : Command → Reply × Cursor
  | .look => (.nothing, c)
  | .startsWith text => (.truth (c.startsWith text), c)
  | .firstMatch candidates => (.candidate (c.firstMatch? candidates), c)
  | .longestMatch candidates => (.candidate (c.longestMatch? candidates), c)
  | .advance => (.nothing, c.advance)
  | .advanceBy n => (.nothing, c.advanceBy n)
  | .skipToLineEnd => (.nothing, c.skipToLineEnd)
  | .skipTo target => (.truth (c.occursAhead target), c.skipTo target)
  | .setMark => (.nothing, c.setMark)
  | .clearMark => (.nothing, c.clearMark)
  | .takeSpan => (.span c.pending?, c.clearMark)

abbrev Reached (source : Text) : Cursor → Prop :=
  Session.Reached run (.ofText source)

end Cursor
end LexicalScan
