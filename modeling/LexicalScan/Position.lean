import LexicalScan.Text.Line

namespace LexicalScan

open Text

-- A place in a source: the bytes before it, its line, and its column in characters. Lines and
-- columns count from one.
structure Position where
  offset : Nat := 0
  line : UInt32 := 1
  column : UInt32 := 1
  deriving DecidableEq

namespace Position

def start : Position :=
  {}

def step (p : Position) (c : Char) : Position :=
  if c = '\n' then
    { offset := p.offset + c.utf8Size, line := p.line + 1, column := 1 }
  else
    { p with offset := p.offset + c.utf8Size, column := p.column + 1 }

-- The position after the stretch `t`, from its newlines and its last line. A counter that would run
-- over stops at its greatest value.
def skip (p : Position) (t : Text) : Position where
  offset := p.offset + size t
  line := .ofNatClamp (p.line.toNat + t.count '\n')
  column := .ofNatClamp (if '\n' ∈ t then 1 + (lastLine t).length else p.column.toNat + t.length)

def coordinates (line column : UInt32) : Text :=
  decimal line.toNat ++ ':' :: decimal column.toNat

def describe (p : Position) : Text :=
  coordinates p.line p.column

-- `p` is the position that the text `before` leads to, counted from its characters.
structure IsAfter (p : Position) (before : Text) : Prop where
  offset_eq : p.offset = size before
  line_eq : p.line.toNat = 1 + before.count '\n'
  column_eq : p.column.toNat = 1 + (lastLine before).length

namespace IsAfter

variable {p q : Position} {before t : Text} {c : Char}

theorem start : start.IsAfter [] where
  offset_eq := rfl
  line_eq := rfl
  column_eq := rfl

theorem unique (hp : p.IsAfter before) (hq : q.IsAfter before) : p = q := by
  have ho := hp.offset_eq.trans hq.offset_eq.symm
  have hl := UInt32.toNat_inj.mp (hp.line_eq.trans hq.line_eq.symm)
  have hc := UInt32.toNat_inj.mp (hp.column_eq.trans hq.column_eq.symm)
  cases p
  cases q
  simp_all

theorem step (h : p.IsAfter before) (hb : before.length + 2 < UInt32.size) :
    (p.step c).IsAfter (before ++ [c]) := by
  have hc : before.count '\n' ≤ before.length := List.count_le_length
  have hl : (lastLine before).length ≤ before.length := length_lastLine_le
  simp only [UInt32.size] at hb
  have h₁ := h.line_eq
  have h₂ := h.column_eq
  by_cases he : c = '\n'
  case pos =>
    constructor
    case offset_eq => simp [Position.step, he, h.offset_eq]
    case line_eq => simp [Position.step, he, h₁, UInt32.toNat_add]; omega
    case column_eq => simp [Position.step, he, lastLine_concat]
  case neg =>
    constructor
    case offset_eq => simp [Position.step, he, h.offset_eq]
    case line_eq => simpa [Position.step, he, List.count_cons] using h₁
    case column_eq => simp [Position.step, he, h₂, lastLine_concat, UInt32.toNat_add]; omega

theorem skip (h : p.IsAfter before) (hb : before.length + t.length + 1 < UInt32.size) :
    (p.skip t).IsAfter (before ++ t) := by
  have hc : before.count '\n' ≤ before.length := List.count_le_length
  have ht : t.count '\n' ≤ t.length := List.count_le_length
  have hl : (lastLine before).length ≤ before.length := length_lastLine_le
  have hm : (lastLine t).length ≤ t.length := length_lastLine_le
  have h₁ := h.line_eq
  have h₂ := h.column_eq
  constructor
  case offset_eq => simp [Position.skip, h.offset_eq]
  case line_eq =>
    simp only [Position.skip]
    rw [UInt32.toNat_ofNatClamp_of_lt (by omega)]
    simp [h₁, Nat.add_assoc]
  case column_eq =>
    simp only [Position.skip, lastLine_append]
    split
    case isTrue => rw [UInt32.toNat_ofNatClamp_of_lt (by omega)]
    case isFalse =>
      rw [UInt32.toNat_ofNatClamp_of_lt (by omega)]
      simp [h₂, Nat.add_assoc]

end IsAfter
end Position
end LexicalScan
