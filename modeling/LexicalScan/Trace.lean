import LexicalScan.Lexer.Basic

namespace LexicalScan

open Text

def Rule.name : Rule → Text
  | blank => "Whitespace".toList
  | lineComment => "LineComment".toList
  | blockComment => "BlockComment".toList
  | stringLiteral => "StringLiteral".toList
  | symbol => "Symbol".toList
  | run => "Run".toList

namespace Trace

inductive Level
  | debug
  | trace
  deriving DecidableEq

def Level.name : Level → Text
  | debug => "DEBUG".toList
  | trace => "TRACE".toList

inductive Event
  | opened
  | entered
  -- The size of the source becomes known.
  | recorded (size : Nat)
  | unterminated (issue : Issue) (start : Position)
  | fired (rule : Rule) (start : Position)
  | completed (lexemes issues : Nat)
  | exited
  | read (token : Token)
  deriving DecidableEq

namespace Event

def level? : Event → Option Level
  | opened | unterminated .. | completed .. => some .debug
  | fired .. | read _ => some .trace
  | entered | recorded _ | exited => none

def title? : Event → Option Text
  | opened => some "analyze".toList
  | unterminated issue _ => some issue.summary
  | fired .. => some "rule fired".toList
  | completed .. => some "scan complete".toList
  | read _ => some "token".toList
  | entered | recorded _ | exited => none

end Event

-- The events of a step: an issue comes before the rule that met it.
def ofStep (s : Step) : List Event :=
  (s.issue.map (.unterminated · s.start)).toList ++ [.fired s.rule s.start]

end Trace

open Trace in
def Grammar.trace (g : Grammar) (source : Text) : List Event :=
  let lexer := Lexer.analyze { grammar := g } source
  [.opened, .entered, .recorded (size source)]
    ++ (g.steps (.ofText source)).flatMap ofStep
    ++ [.completed lexer.scan.lexemes.length lexer.scan.issues.length, .exited]
    ++ lexer.rest.map .read

end LexicalScan
