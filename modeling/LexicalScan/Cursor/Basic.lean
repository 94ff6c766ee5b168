import LexicalScan.Lexeme
import LexicalScan.Text.Space

namespace LexicalScan

open Text

structure Place where
  position : Position := .start
  rest : Text
  deriving DecidableEq

-- A place and, while a span is pending, the place where it began.
structure Cursor extends Place where
  mark : Option Place := none
  deriving DecidableEq

namespace Cursor

variable {c : Cursor} {candidates : List Text} {t target : Text} {n : Nat}

def ofText (source : Text) : Cursor where
  rest := source

def current? (c : Cursor) : Option Char :=
  c.rest.head?

def atEnd (c : Cursor) : Bool :=
  c.rest.isEmpty

def startsWith (c : Cursor) (s : Text) : Bool :=
  Text.startsWith c.rest s

def isBlankHere (c : Cursor) : Bool :=
  c.current?.any isBlank

def occursAhead (c : Cursor) (target : Text) : Bool :=
  (find? target c.rest).isSome

def firstMatch? (c : Cursor) (candidates : List Text) : Option Text :=
  candidates.find? c.startsWith

-- The larger of two texts, the first of them if they have the same size.
def larger (best : Option Text) (t : Text) : Option Text :=
  match best with
  | none => some t
  | some b => if size t ≤ size b then some b else some t

def longestMatch? (c : Cursor) (candidates : List Text) : Option Text :=
  (candidates.filter c.startsWith).foldl larger none

theorem mem_of_foldl_larger {best : Option Text} {ts : List Text}
    (h : ts.foldl larger best = some t) : best = some t ∨ t ∈ ts := by
  induction ts generalizing best
  case nil => exact .inl h
  case cons s ts ih =>
    cases ih h
    case inr ht => exact .inr (List.mem_cons_of_mem _ ht)
    case inl hl =>
      cases best <;> simp only [larger] at hl
      case none => exact .inr (Option.some.inj hl ▸ List.mem_cons_self)
      case some b =>
        split at hl
        case isTrue => exact .inl hl
        case isFalse => exact .inr (Option.some.inj hl ▸ List.mem_cons_self)

theorem longestMatch?_matches (h : c.longestMatch? candidates = some t) :
    t ∈ candidates ∧ c.startsWith t := by
  cases mem_of_foldl_larger h
  case inl h => contradiction
  case inr h => exact List.mem_filter.mp h

def advance (c : Cursor) : Cursor :=
  match c.rest with
  | [] => c
  | ch :: rest => { c with position := c.position.step ch, rest }

def advanceBy (c : Cursor) (n : Nat) : Cursor :=
  { c with position := (c.rest.take n).foldl Position.step c.position, rest := c.rest.drop n }

def skip (c : Cursor) (n : Nat) : Cursor :=
  { c with position := c.position.skip (c.rest.take n), rest := c.rest.drop n }

def skipToLineEnd (c : Cursor) : Cursor :=
  c.skip (firstLine c.rest).length

def skipToEnd (c : Cursor) : Cursor :=
  c.skip c.rest.length

-- Moves past the first occurrence of `target`, or to the end of the source if there is none.
def skipTo (c : Cursor) (target : Text) : Cursor :=
  match find? target c.rest with
  | some n => c.skip (n + target.length)
  | none => c.skipToEnd

@[simp]
theorem rest_advance : c.advance.rest = c.rest.drop 1 := by
  unfold advance
  split <;> simp [*]

@[simp]
theorem rest_advanceBy : (c.advanceBy n).rest = c.rest.drop n :=
  rfl

@[simp]
theorem rest_skip : (c.skip n).rest = c.rest.drop n :=
  rfl

@[simp]
theorem rest_skipToLineEnd : c.skipToLineEnd.rest = afterFirstLine c.rest :=
  drop_length_firstLine

@[simp]
theorem rest_skipToEnd : c.skipToEnd.rest = [] := by
  simp [skipToEnd]

theorem rest_skipTo :
    (c.skipTo target).rest = match find? target c.rest with
      | some n => c.rest.drop (n + target.length)
      | none => [] := by
  unfold skipTo
  split <;> simp

theorem length_rest_skipTo_le : (c.skipTo target).rest.length ≤ c.rest.length := by
  rw [rest_skipTo]
  split <;> simp

theorem length_rest_skipTo_lt (hc : c.rest ≠ []) (ht : target ≠ []) :
    (c.skipTo target).rest.length < c.rest.length := by
  have := List.length_pos_iff.mpr hc
  have := List.length_pos_iff.mpr ht
  rw [rest_skipTo]
  split <;> simp <;> omega

@[simp]
theorem mark_advance : c.advance.mark = c.mark := by
  unfold advance
  split <;> rfl

def setMark (c : Cursor) : Cursor :=
  { c with mark := some c.toPlace }

def clearMark (c : Cursor) : Cursor :=
  { c with mark := none }

def pending? (c : Cursor) : Option Lexeme :=
  c.mark.map fun mark =>
    { text := takeSize (c.position.offset - mark.position.offset) mark.rest
      start := mark.position }

@[simp]
theorem rest_setMark : c.setMark.rest = c.rest :=
  rfl

@[simp]
theorem rest_clearMark : c.clearMark.rest = c.rest :=
  rfl

end Cursor
end LexicalScan
