import LexicalScan.Proofs.Occurrence
import LexicalScan.Cursor.Basic

namespace LexicalScan

open Text

namespace Position

-- `q` is reached from `p` over a text, by steps over single characters and skips over stretches.
inductive Passes : Position → Text → Position → Prop
  | refl {p : Position} : Passes p [] p
  | step {p q : Position} {c : Char} {t : Text} (rest : Passes (p.step c) t q) : Passes p (c :: t) q
  | skip {p q : Position} {s t : Text} (rest : Passes (p.skip s) t q) : Passes p (s ++ t) q

namespace Passes

variable {p q r : Position} {s t before : Text}

theorem trans (h₁ : p.Passes s q) (h₂ : q.Passes t r) : p.Passes (s ++ t) r := by
  induction h₁
  case refl => exact h₂
  case step ih => exact .step (ih h₂)
  case skip ih =>
    rw [List.append_assoc]
    exact .skip (ih h₂)

theorem foldl_step : p.Passes t (t.foldl Position.step p) := by
  induction t generalizing p
  case nil => exact .refl
  case cons ih => exact .step ih

theorem of_skip : p.Passes t (p.skip t) := by
  have h : p.Passes (t ++ []) (p.skip t) := .skip .refl
  rwa [List.append_nil] at h

theorem offset_step {c : Char} : (p.step c).offset = p.offset + c.utf8Size := by
  simp only [Position.step]
  split <;> rfl

theorem offset_eq (h : p.Passes t q) : q.offset = p.offset + size t := by
  induction h
  case refl => simp
  case step ih => simp [ih, offset_step, Nat.add_assoc]
  case skip ih => simp [ih, Position.skip, Nat.add_assoc]

theorem isAfter (h : p.Passes t q) (hp : p.IsAfter before)
    (hb : before.length + t.length + 1 < UInt32.size) : q.IsAfter (before ++ t) := by
  induction h generalizing before
  case refl => simpa using hp
  case step ih =>
    simp only [List.length_cons] at hb
    have := ih (hp.step (by omega)) (by simp; omega)
    simpa using this
  case skip ih =>
    simp only [List.length_append] at hb
    have := ih (hp.skip (by omega)) (by simp; omega)
    simpa using this

end Passes

def after (t : Text) : Position :=
  start.skip t

@[simp]
theorem offset_after {t : Text} : (after t).offset = size t := by
  simp [after, skip, start]

theorem isAfter_after {t : Text} (h : t.length < 2 ^ 32 - 1) : (after t).IsAfter t :=
  IsAfter.start.skip (by simp only [List.length_nil, UInt32.size]; omega)

theorem IsAfter.eq_after {p : Position} {t : Text} (hp : p.IsAfter t) (h : t.length < 2 ^ 32 - 1) :
    p = after t :=
  hp.unique (isAfter_after h)

-- The place of a position in a source is told by a relation to the text before it, which holds at
-- the start and is kept by passing over the text that follows.
structure Tracks (R : Position → Text → Prop) (source : Text) : Prop where
  start : R .start []
  passes : ∀ {p q : Position} {before t : Text},
    R p before → before ++ t <+: source → p.Passes t q → R q (before ++ t)

theorem tracks_offset (source : Text) : Tracks (fun p before => p.offset = size before) source where
  start := rfl
  passes hp _ h := by simp [h.offset_eq, hp]

theorem tracks_after {source : Text} (h : source.length < 2 ^ 32 - 1) :
    Tracks (fun p before => p = after before) source where
  start := by decide
  passes {p q before t} hp hs hm := by
    have hl := hs.length_le
    simp only [List.length_append] at hl
    have ha : p.IsAfter before := hp ▸ isAfter_after (by omega)
    exact (hm.isAfter ha (by simp only [UInt32.size]; omega)).eq_after (by simp; omega)

end Position

namespace Cursor

structure Moves (c : Cursor) (t : Text) (d : Cursor) : Prop where
  rest_eq : c.rest = t ++ d.rest
  passes : c.position.Passes t d.position
  mark_eq : d.mark = c.mark

namespace Moves

variable {c d e : Cursor} {s t target : Text} {ch : Char}

theorem trans (h₁ : c.Moves s d) (h₂ : d.Moves t e) : c.Moves (s ++ t) e where
  rest_eq := by simp [h₁.rest_eq, h₂.rest_eq]
  passes := h₁.passes.trans h₂.passes
  mark_eq := h₂.mark_eq.trans h₁.mark_eq

theorem advance : c.Moves (c.rest.take 1) c.advance := by
  cases hr : c.rest
  case nil => exact ⟨by simp [hr], by simpa [Cursor.advance, hr] using .refl, mark_advance⟩
  case cons => exact ⟨by simp [hr], by simpa [Cursor.advance, hr] using .step .refl, mark_advance⟩

theorem advanceBy (h : t <+: c.rest) : c.Moves t (c.advanceBy t.length) where
  rest_eq := (List.prefix_iff_eq_append.mp h).symm
  passes := by
    simp only [Cursor.advanceBy, ← List.prefix_iff_eq_take.mp h]
    exact .foldl_step
  mark_eq := rfl

theorem skip (n : Nat) : c.Moves (c.rest.take n) (c.skip n) where
  rest_eq := (List.take_append_drop ..).symm
  passes := .of_skip
  mark_eq := rfl

theorem skipToLineEnd : c.Moves (firstLine c.rest) c.skipToLineEnd := by
  have h := skip (c := c) (firstLine c.rest).length
  rwa [← List.prefix_iff_eq_take.mp firstLine_isPrefix] at h

theorem skipTo (c : Cursor) (target : Text) :
    ∃ t, Through target c.rest t ∧ c.Moves t (c.skipTo target) := by
  cases h : find? target c.rest
  case some n =>
    refine ⟨_, .of_find?_eq_some h, ?_⟩
    simpa [Cursor.skipTo, h] using skip (c := c) (n + target.length)
  case none =>
    refine ⟨_, .of_find?_eq_none h, ?_⟩
    simpa [Cursor.skipTo, Cursor.skipToEnd, h] using skip (c := c) c.rest.length

end Moves

structure Pends (c : Cursor) (m : Place) (t : Text) : Prop where
  mark_eq : c.mark = some m
  rest_eq : m.rest = t ++ c.rest
  passes : m.position.Passes t c.position

namespace Pends

variable {c d : Cursor} {m : Place} {s t : Text}

theorem setMark : c.setMark.Pends c.toPlace [] where
  mark_eq := rfl
  rest_eq := rfl
  passes := .refl

theorem moves (h : c.Pends m s) (hm : c.Moves t d) : d.Pends m (s ++ t) where
  mark_eq := hm.mark_eq.trans h.mark_eq
  rest_eq := by simp [h.rest_eq, hm.rest_eq]
  passes := h.passes.trans hm.passes

theorem pending?_eq (h : c.Pends m t) : c.pending? = some ⟨t, m.position⟩ := by
  simp [pending?, h.mark_eq, h.rest_eq, h.passes.offset_eq]

end Pends
end Cursor
end LexicalScan
