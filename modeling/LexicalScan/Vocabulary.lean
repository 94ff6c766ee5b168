import LexicalScan.Text.Basic

namespace LexicalScan

structure Vocabulary where
  words : List Text := []
  nodup : words.Nodup := by simp
  ne_nil : ∀ w ∈ words, w ≠ [] := by simp
  deriving DecidableEq

namespace Vocabulary

variable {v : Vocabulary} {w t : Text} {ws : List Text}

def empty : Vocabulary where

def contains (v : Vocabulary) (t : Text) : Bool :=
  v.words.contains t

theorem contains_iff : v.contains t ↔ t ∈ v.words :=
  List.contains_iff_mem

def insert (v : Vocabulary) (w : Text) : Vocabulary :=
  if h : w = [] ∨ w ∈ v.words then v else
    { words := v.words ++ [w]
      nodup := by
        rw [not_or] at h
        exact List.nodup_append.mpr
          ⟨v.nodup, by simp, fun a ha b hb he => h.2 (List.mem_singleton.mp hb ▸ he ▸ ha)⟩
      ne_nil := by
        rw [not_or] at h
        intro u hu
        cases List.mem_append.mp hu
        case inl hu => exact v.ne_nil u hu
        case inr hu => exact List.mem_singleton.mp hu ▸ h.1 }

def ofList (ws : List Text) : Vocabulary :=
  ws.foldl insert empty

theorem mem_insert : t ∈ (v.insert w).words ↔ t ∈ v.words ∨ t = w ∧ w ≠ [] := by
  unfold insert
  split
  case isTrue h =>
    constructor
    case mp => exact .inl
    case mpr =>
      rintro (ht | ⟨rfl, hn⟩)
      case inl => exact ht
      case inr => exact h.resolve_left hn
  case isFalse h => simp [(not_or.mp h).1]

theorem mem_foldl_insert : t ∈ (ws.foldl insert v).words ↔ t ∈ v.words ∨ t ∈ ws ∧ t ≠ [] := by
  induction ws generalizing v
  case nil => simp
  case cons w ws ih =>
    rw [List.foldl_cons, ih, mem_insert]
    by_cases h : t = w <;> simp_all

theorem mem_ofList : t ∈ (ofList ws).words ↔ t ∈ ws ∧ t ≠ [] := by
  simp [ofList, empty, mem_foldl_insert]

end Vocabulary
end LexicalScan
