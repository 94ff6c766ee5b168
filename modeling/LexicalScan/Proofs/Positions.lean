import LexicalScan.Proofs.Coverage

namespace LexicalScan

open Text Segment

namespace Position

-- The sums of lines and columns that a step or a skip over `t` from `p` forms stay within a word.
structure Fits (p : Position) (t : Text) : Prop where
  line_lt : p.line.toNat + t.count '\n' < 2 ^ 32
  column_lt : (if '\n' ∈ t then 1 + (lastLine t).length else p.column.toNat + t.length) < 2 ^ 32

-- `q` is reached from `p` over `t`, and whichever way one takes over `t`, every sum fits.
structure PassesExactly (p : Position) (t : Text) (q : Position) : Prop where
  passes : p.Passes t q
  fits : ∀ {u v : Text} {r : Position}, u ++ v <+: t → p.Passes u r → r.Fits v

def Precedes (p q : Position) : Prop :=
  p.line < q.line ∨ p.line = q.line ∧ p.column < q.column

namespace IsAfter

variable {p q : Position} {before s t : Text}

theorem fits (hp : p.IsAfter before) (h : before.length + t.length < 2 ^ 32 - 1) : p.Fits t := by
  have h₁ := hp.line_eq
  have h₂ := hp.column_eq
  have hc : before.count '\n' ≤ before.length := List.count_le_length
  have hl : (lastLine before).length ≤ before.length := length_lastLine_le
  constructor
  case line_lt =>
    have ht : t.count '\n' ≤ t.length := List.count_le_length
    omega
  case column_lt =>
    have ht : (lastLine t).length ≤ t.length := length_lastLine_le
    split <;> omega

theorem passesExactly (hp : p.IsAfter before) (h : before.length + t.length < 2 ^ 32 - 1)
    (hm : p.Passes t q) : p.PassesExactly t q where
  passes := hm
  fits {u v r} hu hr := by
    have hl := hu.length_le
    simp only [List.length_append] at hl
    have ha := hr.isAfter hp (by simp only [UInt32.size]; omega)
    exact ha.fits (by simp; omega)

theorem precedes (hp : p.IsAfter before) (hq : q.IsAfter t) (hs : before ++ s <+: t)
    (hn : s ≠ []) : p.Precedes q := by
  have ⟨u, hu⟩ := hs
  rw [← hu, List.append_assoc] at hq
  have h₁ := hq.line_eq
  have h₂ := hq.column_eq
  rw [List.count_append] at h₁
  rw [lastLine_append] at h₂
  by_cases hm : '\n' ∈ s ++ u
  case pos =>
    have hc := List.count_pos_iff.mpr hm
    exact .inl (UInt32.lt_iff_toNat_lt.mpr (by rw [h₁, hp.line_eq]; omega))
  case neg =>
    have hc := List.count_eq_zero.mpr hm
    have hl := List.length_pos_iff.mpr hn
    rw [if_neg hm, List.length_append, List.length_append] at h₂
    refine .inr ⟨UInt32.toNat_inj.mp ?_, UInt32.lt_iff_toNat_lt.mpr ?_⟩
    · rw [h₁, hp.line_eq, hc, Nat.add_zero]
    · rw [h₂, hp.column_eq]
      omega

end IsAfter
end Position

namespace Grammar

-- The lexemes of a scan are parts of the source in order, and they, the issues and the steps stand
-- at the positions counted from the text before them. An issue stands at an opening marker.
structure KeepsPlace (g : Grammar) (source : Text) : Prop where
  lexeme : ∀ l ∈ (g.scan source).lexemes, l.text ≠ [] ∧
    ∃ before after, source = before ++ l.text ++ after ∧
      l.start.IsAfter before ∧ l.endOffset = size (before ++ l.text)
  order : (g.scan source).lexemes.Pairwise fun l₁ l₂ =>
    l₁.endOffset ≤ l₂.start.offset ∧ l₁.start.Precedes l₂.start
  issue : ∀ i ∈ (g.scan source).issues, ∃ s ∈ g.steps (.ofText source), s.issue = some i ∧
    ∃ d ∈ g.delimiters? i.construct, ∃ before after,
      source = before ++ d.opening.text ++ after ∧
      s.start.IsAfter before ∧ i.line = s.start.line ∧ i.column = s.start.column
  step : ∀ s ∈ g.steps (.ofText source), ∃ before t after, source = before ++ t ++ after ∧
    s.start.IsAfter before ∧ s.start.PassesExactly t s.cursor.position

variable {g : Grammar} {source : Text} {ss : List Segment} {x : Placed}

namespace Segmentation

theorem exists_of_mem_inRow (h : g.Segmentation source ss) (hx : x ∈ Placed.inRow [] ss) :
    ∃ after, source = x.before ++ x.segment.text ++ after ∧
      g.Cuts (x.segment.text ++ after) x.segment := by
  have ⟨ss₁, ss₂, hs, hb⟩ := Placed.exists_of_mem_inRow hx
  rw [hs] at h
  have ht := h.concat_eq
  exact ⟨concat ss₂, by simp [hb, ← ht], by simpa using h.of_append.cuts⟩

theorem exists_of_mem_lexical (h : g.Segmentation source ss) (hx : x ∈ Placed.lexical [] ss) :
    x.segment.text ≠ [] ∧ ∃ after, source = x.before ++ x.segment.text ++ after := by
  have ⟨ss₁, ss₂, hs, hb⟩ := Placed.exists_of_mem_inRow (List.mem_filter.mp hx).1
  have hn := text_ne_nil_of_mem_pieces (fun _ => h.ne_nil) (s := x.segment) (by simp [hs])
  refine ⟨hn, concat ss₂, ?_⟩
  rw [← h.concat_eq, ← concat_pieces, hs]
  simp [hb]

theorem lexeme_isAfter (h : g.Segmentation source ss) (hb : source.length < 2 ^ 32 - 1)
    (hx : x ∈ Placed.lexical [] ss) : x.lexeme.start.IsAfter x.before := by
  have ⟨_, after, hs⟩ := h.exists_of_mem_lexical hx
  have hp : x.before <+: source := ⟨_, by rw [hs, List.append_assoc]⟩
  exact Position.isAfter_after (hp.length_le.trans_lt hb)

theorem lexemes_pairwise (h : g.Segmentation source ss) (hb : source.length < 2 ^ 32 - 1) :
    (g.scan source).lexemes.Pairwise fun l₁ l₂ =>
      l₁.endOffset ≤ l₂.start.offset ∧ l₁.start.Precedes l₂.start := by
  rw [h.lexemes_eq hb, List.pairwise_map]
  have hp : (Placed.lexical [] ss).Pairwise fun x y => x.before ++ x.segment.text <+: y.before :=
    Placed.inRow_pairwise.filter _
  refine hp.imp_of_mem fun {x y} hx hy hxy => ?_
  have h₁ := h.lexeme_isAfter hb hx
  have h₂ := h.lexeme_isAfter hb hy
  constructor
  case left =>
    simpa [Lexeme.endOffset] using size_le_of_isPrefix hxy
  case right => exact h₁.precedes h₂ hxy (h.exists_of_mem_lexical hx).1

-- Lexemes stand in the order of the source even if the counters of lines and columns run over.
theorem lexemes_inOrder (h : g.Segmentation source ss) :
    (g.scan source).lexemes.Pairwise fun l₁ l₂ => l₁.endOffset ≤ l₂.start.offset := by
  have hm : (g.scan source).lexemes.map (fun l => (l.start.offset, l.endOffset)) =
      (Placed.lexical [] ss).map fun x => (size x.before, size (x.before ++ x.segment.text)) := by
    rw [← List.forall₂_eq_eq_eq, List.forall₂_map_left_iff, List.forall₂_map_right_iff]
    exact (h.lexemes_placed (Position.tracks_offset source)).imp fun l x hl => by
      simp [Lexeme.endOffset, hl.start, hl.text_eq]
  have hp : ((Placed.lexical [] ss).map fun x =>
      (size x.before, size (x.before ++ x.segment.text))).Pairwise fun p q => p.2 ≤ q.1 := by
    rw [List.pairwise_map]
    exact (Placed.inRow_pairwise.filter _).imp size_le_of_isPrefix
  rwa [← hm, List.pairwise_map] at hp

theorem step_passes (h : g.Segmentation source ss) (hb : source.length < 2 ^ 32 - 1) {s : Step}
    (hs : s ∈ g.steps (.ofText source)) :
    ∃ x ∈ Placed.inRow [] ss, s.start.IsAfter x.before ∧
      s.start.PassesExactly x.segment.text s.cursor.position ∧
      s.issue = (g.leftOpen? x.segment).map (.unterminated · s.start) := by
  have ⟨x, hx, hs⟩ := exists_of_mem_of_forall₂ (h.steps_placed (Position.tracks_after hb)) hs
  have ⟨after, he, _⟩ := h.exists_of_mem_inRow hx
  simp only [he, List.length_append] at hb
  have ha : s.start.IsAfter x.before := hs.start ▸ Position.isAfter_after (by omega)
  exact ⟨x, hx, ha, ha.passesExactly (by omega) hs.passes, hs.issue_eq⟩

end Segmentation

theorem scan_positions (g : Grammar) {source : Text} (hb : source.length < 2 ^ 32 - 1) :
    g.KeepsPlace source := by
  have ⟨ss, h⟩ := g.exists_segmentation source
  constructor
  case lexeme =>
    intro l hl
    rw [h.lexemes_eq hb] at hl
    have ⟨x, hx, he⟩ := List.mem_map.mp hl
    have ⟨hn, after, hs⟩ := h.exists_of_mem_lexical hx
    have ha := h.lexeme_isAfter hb hx
    rw [← he]
    exact ⟨hn, x.before, after, hs, ha, by simp [Lexeme.endOffset]⟩
  case order => exact h.lexemes_pairwise hb
  case issue =>
    intro i hi
    have ⟨s, hs, hi⟩ := List.mem_filterMap.mp hi
    have ⟨x, hx, ha, _, he⟩ := h.step_passes hb hs
    have ⟨construct, ho, hi'⟩ := Option.map_eq_some_iff.mp (he.symm.trans hi)
    have ⟨after, hx, hc⟩ := h.exists_of_mem_inRow hx
    have ⟨_, d, hd, u, hu⟩ := hc.of_leftOpen?_eq_some ho
    subst hi'
    refine ⟨s, hs, hi, d, hd, x.before, u, ?_, ha, rfl, rfl⟩
    rw [hx, List.append_assoc, List.append_assoc, hu]
  case step =>
    intro s hs
    have ⟨x, hx, ha, hp, _⟩ := h.step_passes hb hs
    have ⟨after, hx, _⟩ := h.exists_of_mem_inRow hx
    exact ⟨x.before, x.segment.text, after, hx, ha, hp⟩

def cLike : Grammar :=
  .ofSettings [
    .symbols [['='], ['=', '='], [','], [';'], ['('], [')']],
    .string ['"'] ['"'],
    .lineComment ['/', '/'],
    .blockComment ['/', '*'] ['*', '/']
  ]

theorem scan_positions_cLike :
    let source := "é /* ü\n */ ==x \"ü\na".toList
    (cLike.scan source).lexemes = [
      ⟨"é".toList, ⟨0, 1, 1⟩⟩, ⟨"==".toList, ⟨13, 2, 5⟩⟩, ⟨"x".toList, ⟨15, 2, 7⟩⟩,
      ⟨"\"ü\na".toList, ⟨17, 2, 9⟩⟩
    ] ∧
    (cLike.scan source).issues = [⟨.stringLiteral, 2, 9⟩] ∧
    source.length < 2 ^ 32 - 1 ∧ cLike.KeepsPlace source :=
  ⟨by decide +kernel, by decide +kernel, by decide, scan_positions cLike (by decide)⟩

end Grammar
end LexicalScan
