import LexicalScan.Position

namespace LexicalScan

inductive Construct
  | stringLiteral
  | blockComment
  deriving DecidableEq

def Construct.name : Construct → Text
  | stringLiteral => "string literal".toList
  | blockComment => "block comment".toList

structure Issue where
  construct : Construct
  line : UInt32
  column : UInt32
  deriving DecidableEq

namespace Issue

def unterminated (construct : Construct) (p : Position) : Issue where
  construct
  line := p.line
  column := p.column

theorem eq_unterminated_iff {i : Issue} {construct : Construct} {p : Position} :
    i = unterminated construct p ↔
      i.construct = construct ∧ i.line = p.line ∧ i.column = p.column := by
  cases i
  simp [unterminated]

def summary (i : Issue) : Text :=
  "unterminated ".toList ++ i.construct.name

def message (i : Issue) : Text :=
  i.summary ++ " starting at ".toList ++ Position.coordinates i.line i.column

end Issue
end LexicalScan
