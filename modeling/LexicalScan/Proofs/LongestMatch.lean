import LexicalScan.Cursor.Basic
import LexicalScan.Proofs.Occurrence

namespace LexicalScan

open Text

namespace Cursor

variable {c : Cursor} {candidates ts : List Text} {best : Option Text} {s t : Text} {n : Nat}

theorem larger_ne_none : larger best t ≠ none := by
  cases best
  case none => simp [larger]
  case some b =>
    simp only [larger]
    split <;> simp

theorem foldl_larger_eq_none_iff : ts.foldl larger best = none ↔ best = none ∧ ts = [] := by
  induction ts generalizing best
  case nil => simp
  case cons t ts ih => simp [ih, larger_ne_none]

theorem size_le_of_larger (h : ∀ b ∈ larger best t, size b ≤ n) :
    (∀ b ∈ best, size b ≤ n) ∧ size t ≤ n := by
  cases best
  case none => simpa [larger] using h
  case some b =>
    simp only [larger] at h
    split at h <;> simp at h ⊢ <;> omega

theorem size_le_of_foldl_larger (h : ts.foldl larger best = some t) :
    (∀ b ∈ best, size b ≤ size t) ∧ ∀ s ∈ ts, size s ≤ size t := by
  induction ts generalizing best
  case nil => simp_all
  case cons s ts ih =>
    have ⟨hl, ht⟩ := ih h
    have ⟨hb, hs⟩ := size_le_of_larger hl
    exact ⟨hb, List.forall_mem_cons.mpr ⟨hs, ht⟩⟩

theorem longestMatch?_eq_none_iff :
    c.longestMatch? candidates = none ↔ ∀ t ∈ candidates, ¬c.startsWith t := by
  simp [longestMatch?, foldl_larger_eq_none_iff]

theorem isPrefix_longestMatch? (h : c.longestMatch? candidates = some t) (hs : s ∈ candidates)
    (hm : c.startsWith s) : s <+: t := by
  have ⟨_, ht⟩ := longestMatch?_matches h
  apply isPrefix_of_size_le (startsWith_iff.mp hm).2 (startsWith_iff.mp ht).2
  exact (size_le_of_foldl_larger h).2 s (List.mem_filter.mpr ⟨hs, hm⟩)

-- `t` is the candidate that matches here and that all candidates that match begin.
structure IsLongestMatch (c : Cursor) (candidates : List Text) (t : Text) : Prop where
  mem : t ∈ candidates
  ne_nil : t ≠ []
  isPrefix : t <+: c.rest
  greatest : ∀ s ∈ candidates, s ≠ [] → s <+: c.rest → s <+: t

theorem IsLongestMatch.unique (hs : c.IsLongestMatch candidates s)
    (ht : c.IsLongestMatch candidates t) : s = t := by
  have hst := ht.greatest s hs.mem hs.ne_nil hs.isPrefix
  have hts := hs.greatest t ht.mem ht.ne_nil ht.isPrefix
  exact hst.eq_of_length_le hts.length_le

theorem IsLongestMatch.congr {others : List Text} (ht : c.IsLongestMatch candidates t)
    (h : ∀ t, t ≠ [] → (t ∈ candidates ↔ t ∈ others)) : c.IsLongestMatch others t := by
  refine ⟨(h t ht.ne_nil).mp ht.mem, ht.ne_nil, ht.isPrefix, fun s hs hn => ?_⟩
  exact ht.greatest s ((h s hn).mpr hs) hn

theorem longestMatch?_eq_some_iff :
    c.longestMatch? candidates = some t ↔ c.IsLongestMatch candidates t := by
  have isLongest {t : Text} (h : c.longestMatch? candidates = some t) :
      c.IsLongestMatch candidates t := by
    have ⟨hm, ht⟩ := longestMatch?_matches h
    have ⟨hn, hp⟩ := startsWith_iff.mp ht
    refine ⟨hm, hn, hp, fun s hs hsn hsp => ?_⟩
    exact isPrefix_longestMatch? h hs (startsWith_iff.mpr ⟨hsn, hsp⟩)
  constructor
  case mp => exact isLongest
  case mpr =>
    intro ht
    cases h : c.longestMatch? candidates
    case none =>
      have hm : c.startsWith t := startsWith_iff.mpr ⟨ht.ne_nil, ht.isPrefix⟩
      exact absurd hm (longestMatch?_eq_none_iff.mp h t ht.mem)
    case some s => rw [(isLongest h).unique ht]

-- It does not matter in which order and how often the candidates are given, nor whether some of
-- them are empty.
theorem longestMatch?_congr {others : List Text}
    (h : ∀ t, t ≠ [] → (t ∈ candidates ↔ t ∈ others)) :
    c.longestMatch? candidates = c.longestMatch? others := by
  apply Option.ext
  intro t
  rw [longestMatch?_eq_some_iff, longestMatch?_eq_some_iff]
  constructor
  case mp => exact fun ht => ht.congr h
  case mpr => exact fun ht => ht.congr fun t hn => (h t hn).symm

end Cursor
end LexicalScan
