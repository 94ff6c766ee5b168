import LexicalScan.Cursor.Basic
import LexicalScan.Grammar
import LexicalScan.Issue

namespace LexicalScan

open Text

-- The rules in the order in which they are tried.
inductive Rule
  | blank
  | lineComment
  | blockComment
  | stringLiteral
  | symbol
  | run
  deriving DecidableEq

-- What a rule does at a place: where it began, the cursor after it, the run that it ended, the
-- lexeme that it found itself, and the issue that it met.
structure Step where
  rule : Rule
  start : Position
  cursor : Cursor
  flushed : Option Lexeme := none
  own : Option Lexeme := none
  issue : Option Issue := none
  deriving DecidableEq

namespace Step

def emitted (s : Step) : List Lexeme :=
  s.flushed.toList ++ s.own.toList

-- The step from `c` to `stop` by a rule that ends the pending run. Nothing is pending after it.
def flushing (rule : Rule) (c stop : Cursor) (own : Option Lexeme := none)
    (issue : Option Issue := none) : Step where
  rule
  start := c.position
  cursor := stop.clearMark
  flushed := c.pending?
  own
  issue

def blank? (c : Cursor) : Option Step :=
  if c.isBlankHere then some (flushing .blank c c.advance) else none

-- A line comment reaches through the first newline at or after the first character of its marker,
-- or to the end of the source.
def lineComment? (g : Grammar) (c : Cursor) : Option Step := do
  let marker ← g.lineComment
  if c.startsWith marker.text then
    some (flushing .lineComment c c.skipToLineEnd.advance)
  else none

def issue? (construct : Construct) (c body : Cursor) (closing : Marker) : Option Issue :=
  if body.occursAhead closing.text then none else some (.unterminated construct c.position)

-- A block comment reaches through the first closing marker at or after the first character of its
-- opening marker, or to the end of the source.
def blockComment? (g : Grammar) (c : Cursor) : Option Step := do
  let d ← g.blockComment
  if c.startsWith d.opening.text then
    some (flushing .blockComment c (c.skipTo d.closing.text) none
      (issue? .blockComment c c d.closing))
  else none

-- A string literal reaches through the first closing marker after its opening marker, or to the end
-- of the source. It is a lexeme even when it is not closed.
def stringLiteral? (g : Grammar) (c : Cursor) : Option Step := do
  let d ← g.string
  if c.startsWith d.opening.text then
    let body := c.setMark.advanceBy d.opening.text.length
    let stop := body.skipTo d.closing.text
    some (flushing .stringLiteral c stop stop.pending? (issue? .stringLiteral c body d.closing))
  else none

def symbol? (g : Grammar) (c : Cursor) : Option Step := do
  let symbol ← c.longestMatch? g.symbols.words
  let stop := c.setMark.advanceBy symbol.length
  some (flushing .symbol c stop stop.pending?)

def run (c : Cursor) : Step where
  rule := .run
  start := c.position
  cursor := (if c.mark.isSome then c else c.setMark).advance

end Step

namespace Grammar

def rules (g : Grammar) : List (Cursor → Option Step) :=
  [Step.blank?, Step.lineComment? g, Step.blockComment? g, Step.stringLiteral? g, Step.symbol? g]

def step (g : Grammar) (c : Cursor) : Step :=
  (g.rules.findSome? (· c)).getD (Step.run c)

end Grammar

namespace Step

variable {g : Grammar} {c : Cursor} {s : Step}

theorem blank?_shorter (hc : c.rest ≠ []) (h : blank? c = some s) :
    s.cursor.rest.length < c.rest.length := by
  have := List.length_pos_iff.mpr hc
  unfold blank? at h
  split at h
  case isTrue => simp [← Option.some.inj h, flushing]; omega
  case isFalse => contradiction

theorem lineComment?_shorter (hc : c.rest ≠ []) (h : lineComment? g c = some s) :
    s.cursor.rest.length < c.rest.length := by
  have ⟨m, _, h⟩ := Option.bind_eq_some_iff.mp h
  split at h
  case isTrue =>
    have hp := List.length_pos_iff.mpr hc
    have hl : (afterFirstLine c.rest).length ≤ c.rest.length :=
      (List.dropWhile_sublist _).length_le
    simp [← Option.some.inj h, flushing]
    omega
  case isFalse => contradiction

theorem blockComment?_shorter (hc : c.rest ≠ []) (h : blockComment? g c = some s) :
    s.cursor.rest.length < c.rest.length := by
  have ⟨d, _, h⟩ := Option.bind_eq_some_iff.mp h
  split at h
  case isTrue =>
    simpa [← Option.some.inj h, flushing] using
      Cursor.length_rest_skipTo_lt hc d.closing.ne_nil
  case isFalse => contradiction

theorem stringLiteral?_shorter (hc : c.rest ≠ []) (h : stringLiteral? g c = some s) :
    s.cursor.rest.length < c.rest.length := by
  have ⟨d, _, h⟩ := Option.bind_eq_some_iff.mp h
  have hp := List.length_pos_iff.mpr hc
  have ho := List.length_pos_iff.mpr d.opening.ne_nil
  split at h
  case isTrue =>
    rw [← Option.some.inj h]
    calc
      _ ≤ (c.rest.drop d.opening.text.length).length := Cursor.length_rest_skipTo_le
      _ < c.rest.length := by simp; omega
  case isFalse => contradiction

theorem symbol?_shorter (hc : c.rest ≠ []) (h : symbol? g c = some s) :
    s.cursor.rest.length < c.rest.length := by
  have ⟨t, ht, h⟩ := Option.bind_eq_some_iff.mp h
  have hp := List.length_pos_iff.mpr hc
  have ⟨_, hm⟩ := Cursor.longestMatch?_matches ht
  have hl := List.length_pos_iff.mpr (startsWith_iff.mp hm).1
  simp [← Option.some.inj h, flushing]
  omega

theorem run_shorter (hc : c.rest ≠ []) : (run c).cursor.rest.length < c.rest.length := by
  have := List.length_pos_iff.mpr hc
  unfold run
  split <;> simp <;> omega

end Step

namespace Grammar

variable {g : Grammar} {c : Cursor}

theorem step_cases (g : Grammar) (c : Cursor) :
    (∃ rule ∈ g.rules, rule c = some (g.step c)) ∨ g.step c = Step.run c := by
  cases h : g.rules.findSome? (· c)
  case none => exact .inr (by simp [step, h])
  case some s =>
    have ⟨rule, hm, hr⟩ := List.exists_of_findSome?_eq_some h
    exact .inl ⟨rule, hm, by simp [step, h, hr]⟩

theorem step_shorter (g : Grammar) (hc : c.rest ≠ []) :
    (g.step c).cursor.rest.length < c.rest.length := by
  cases g.step_cases c
  case inr h => exact h ▸ Step.run_shorter hc
  case inl h =>
    have ⟨rule, hm, hr⟩ := h
    simp only [rules, List.mem_cons, List.not_mem_nil, or_false] at hm
    rcases hm with rfl | rfl | rfl | rfl | rfl
    case inl => exact Step.blank?_shorter hc hr
    case inr.inl => exact Step.lineComment?_shorter hc hr
    case inr.inr.inl => exact Step.blockComment?_shorter hc hr
    case inr.inr.inr.inl => exact Step.stringLiteral?_shorter hc hr
    case inr.inr.inr.inr => exact Step.symbol?_shorter hc hr

end Grammar
end LexicalScan
