import LexicalScan.Text.Basic
import LexicalScan.Text.CodeRange

namespace LexicalScan

namespace Text

-- The blanks that separate lexemes in a source are fewer than the spaces that separate words.
def blanks : List Char :=
  [' ', '\t', '\n', '\r', '\x0b', '\x0c']

def isBlank (c : Char) : Bool :=
  blanks.contains c

-- The code points with the Unicode property White_Space.
def spaceRanges : List CodeRange :=
  [⟨0x9, 0xd⟩, ⟨0x20, 0x20⟩, ⟨0x85, 0x85⟩, ⟨0xa0, 0xa0⟩, ⟨0x1680, 0x1680⟩, ⟨0x2000, 0x200a⟩,
    ⟨0x2028, 0x2029⟩, ⟨0x202f, 0x202f⟩, ⟨0x205f, 0x205f⟩, ⟨0x3000, 0x3000⟩]

def isSpace (c : Char) : Bool :=
  CodeRange.covers spaceRanges c

def words (t : Text) : List Text :=
  (t.splitOnP isSpace).filter (!·.isEmpty)

structure IsWord (w : Text) : Prop where
  ne_nil : w ≠ []
  no_space : ∀ c ∈ w, isSpace c = false

def IsGap (t : Text) : Prop :=
  ∀ c ∈ t, isSpace c

-- Words one after another, with gaps around them. Behind a word there is a space or nothing.
inductive Spaced : List Text → Text → Prop
  | nil {gap : Text} (isGap : IsGap gap) : Spaced [] gap
  | cons {gap w t : Text} {ws : List Text} (isGap : IsGap gap)
      (apart : ∀ c ∈ t.head?, isSpace c) (rest : Spaced ws t) : Spaced (w :: ws) (gap ++ w ++ t)

variable {gap s t w : Text} {ws : List Text} {c : Char}

theorem words_append_space (h : isSpace c) : words (s ++ c :: t) = words s ++ words t := by
  rw [words, List.splitOnP_append_cons s t h, List.filter_append]
  rfl

theorem words_cons_space (hc : isSpace c) : words (c :: t) = words t :=
  words_append_space (s := []) hc

theorem words_gap_append (h : IsGap gap) : words (gap ++ t) = words t := by
  induction gap
  case nil => rfl
  case cons c gap ih =>
    rw [List.cons_append, words_cons_space (h c List.mem_cons_self)]
    exact ih fun d hd => h d (List.mem_cons_of_mem c hd)

theorem isGap_nil : IsGap [] := by
  simp [IsGap]

theorem IsGap.cons (h : IsGap gap) (hc : isSpace c) : IsGap (c :: gap) :=
  List.forall_mem_cons.mpr ⟨hc, h⟩

theorem IsGap.head? (h : IsGap gap) : ∀ c ∈ gap.head?, isSpace c :=
  fun c hc => h c (List.mem_of_head? hc)

namespace IsWord

theorem words_eq (h : IsWord w) : words w = [w] := by
  simp [words, List.splitOnP_eq_singleton h.no_space, h.ne_nil]

theorem singleton (hc : isSpace c = false) : IsWord [c] where
  ne_nil := List.cons_ne_nil _ _
  no_space := by simpa using hc

theorem cons (h : IsWord w) (hc : isSpace c = false) : IsWord (c :: w) where
  ne_nil := List.cons_ne_nil _ _
  no_space := List.forall_mem_cons.mpr ⟨hc, h.no_space⟩

end IsWord

namespace Spaced

theorem words_eq (h : Spaced ws t) (hw : ∀ w ∈ ws, IsWord w) : words t = ws := by
  induction h
  case nil gap hg =>
    rw [← List.append_nil gap, words_gap_append hg]
    rfl
  case cons gap w t ws hg ha hr ih =>
    rw [List.forall_mem_cons] at hw
    specialize ih hw.2
    rw [List.append_assoc, words_gap_append hg]
    cases t
    case nil =>
      rw [List.append_nil, hw.1.words_eq, ← ih]
      rfl
    case cons c t =>
      have hc := ha c rfl
      rw [words_append_space hc, hw.1.words_eq, ← words_cons_space hc, ih]
      rfl

theorem cons_space (h : Spaced ws t) (hc : isSpace c) : Spaced ws (c :: t) := by
  cases h
  case nil hg => exact .nil (hg.cons hc)
  case cons hg ha hr => exact .cons (hg.cons hc) ha hr

theorem intercalate (ws : List Text) : Spaced ws ([' '].intercalate ws) := by
  induction ws
  case nil => exact .nil isGap_nil
  case cons w ws ih =>
    cases ws
    case nil => simpa using Spaced.cons (w := w) isGap_nil (by simp) (.nil isGap_nil)
    case cons v ws =>
      have hb : isSpace ' ' := by decide
      simpa using Spaced.cons (w := w) isGap_nil (by simpa using hb) (ih.cons_space hb)

end Spaced

theorem exists_spaced (t : Text) : ∃ ws, Spaced ws t ∧ ∀ w ∈ ws, IsWord w := by
  induction t
  case nil => exact ⟨[], .nil isGap_nil, by simp⟩
  case cons c t ih =>
    have ⟨ws, hs, hw⟩ := ih
    by_cases hc : isSpace c
    case pos => exact ⟨ws, hs.cons_space hc, hw⟩
    case neg =>
      rw [Bool.not_eq_true] at hc
      -- The character begins the first word if that stands right behind it.
      cases hs
      case nil hg =>
        exact ⟨[[c]], .cons isGap_nil hg.head? (.nil hg), by simp [IsWord.singleton hc]⟩
      case cons gap w t ws hg ha hr =>
        cases gap
        case nil =>
          have ⟨hv, hw⟩ := List.forall_mem_cons.mp hw
          have hs : Spaced ((c :: w) :: ws) (c :: ([] ++ w ++ t)) := .cons isGap_nil ha hr
          exact ⟨_, hs, List.forall_mem_cons.mpr ⟨hv.cons hc, hw⟩⟩
        case cons d gap =>
          have hd : ∀ e ∈ (d :: gap ++ w ++ t).head?, isSpace e := hg.head?
          have hs : Spaced ([c] :: w :: ws) (c :: (d :: gap ++ w ++ t)) :=
            .cons isGap_nil hd (.cons hg ha hr)
          exact ⟨_, hs, List.forall_mem_cons.mpr ⟨.singleton hc, hw⟩⟩

theorem words_eq_iff : words t = ws ↔ Spaced ws t ∧ ∀ w ∈ ws, IsWord w := by
  constructor
  case mp =>
    rintro rfl
    have ⟨ws, hs, hw⟩ := exists_spaced t
    rw [hs.words_eq hw]
    exact ⟨hs, hw⟩
  case mpr =>
    rintro ⟨hs, hw⟩
    exact hs.words_eq hw

end Text
end LexicalScan
