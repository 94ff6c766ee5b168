import LexicalScan.Proofs.LongestMatch
import LexicalScan.Proofs.Passage
import LexicalScan.Proofs.Segmentation

namespace LexicalScan

open Text

namespace Step

-- The step `s` from `c` takes the text `t`. Every rule but the run ends the pending run, and string
-- literals and symbols are lexemes of their own.
structure Takes (g : Grammar) (c : Cursor) (s : Step) (t : Text) : Prop where
  prescribed : g.Prescribes c.rest s.rule t
  rest_eq : c.rest = t ++ s.cursor.rest
  passes : c.position.Passes t s.cursor.position
  start_eq : s.start = c.position
  mark_eq : s.cursor.mark = if s.rule = .run then some (c.mark.getD c.toPlace) else none
  flushed_eq : s.flushed = if s.rule = .run then none else c.pending?
  own_eq : s.own =
    if s.rule = .stringLiteral ∨ s.rule = .symbol then some ⟨t, c.position⟩ else none
  issue_eq : s.issue = (g.leftOpen? ⟨s.rule, t⟩).map (.unterminated · c.position)

def taken (s : Step) (ahead : Text) : Text :=
  ahead.take (ahead.length - s.cursor.rest.length)

variable {g : Grammar} {c d stop : Cursor} {s : Step} {t : Text}

theorem Takes.taken_eq (h : s.Takes g c t) : s.taken c.rest = t := by
  simp [taken, h.rest_eq]

theorem Takes.flushing {rule : Rule} {own : Option Lexeme} {issue : Option Issue}
    (hp : g.Prescribes c.rest rule t) (hr : rule ≠ .run)
    (hm : d.Moves t stop) (hd : d.toPlace = c.toPlace)
    (ho : own = if rule = .stringLiteral ∨ rule = .symbol then some ⟨t, c.position⟩ else none)
    (hi : issue = (g.leftOpen? ⟨rule, t⟩).map (.unterminated · c.position)) :
    (flushing rule c stop own issue).Takes g c t where
  prescribed := hp
  rest_eq := hd ▸ hm.rest_eq
  passes := hd ▸ hm.passes
  start_eq := rfl
  mark_eq := (if_neg hr).symm
  flushed_eq := (if_neg hr).symm
  own_eq := ho
  issue_eq := hi

theorem blank?_takes (h : blank? c = some s) : s.rule = .blank ∧ ∃ t, s.Takes g c t := by
  unfold blank? at h
  split at h
  case isFalse => contradiction
  case isTrue hb =>
    have ⟨ch, hh, hb⟩ := Option.any_eq_true .. |>.mp hb
    have hp : [ch] <+: c.rest := List.singleton_prefix_iff_head?_eq_some.mpr hh
    rw [← Option.some.inj h]
    refine ⟨rfl, [ch], .flushing (.blank hb hp) (by simp) ?_ rfl rfl rfl⟩
    exact List.prefix_iff_eq_take.mp hp ▸ Cursor.Moves.advance

theorem lineComment?_takes (h : lineComment? g c = some s) :
    s.rule = .lineComment ∧ ∃ t, s.Takes g c t := by
  have ⟨m, hm, h⟩ := Option.bind_eq_some_iff.mp h
  split at h
  case isFalse => contradiction
  case isTrue ho =>
    rw [← Option.some.inj h]
    refine ⟨rfl, _, .flushing (.lineComment hm (startsWith_iff.mp ho).2 through_firstLine) (by simp)
      ?_ rfl rfl rfl⟩
    have := (@Cursor.Moves.skipToLineEnd c).trans .advance
    rwa [Cursor.rest_skipToLineEnd] at this

theorem blockComment?_takes (h : blockComment? g c = some s) :
    s.rule = .blockComment ∧ ∃ t, s.Takes g c t := by
  have ⟨d, hd, h⟩ := Option.bind_eq_some_iff.mp h
  split at h
  case isFalse => contradiction
  case isTrue ho =>
    have ⟨t, ht, hm⟩ := Cursor.Moves.skipTo c d.closing.text
    rw [← Option.some.inj h]
    refine ⟨rfl, t, .flushing (.blockComment hd (startsWith_iff.mp ho).2 ht) (by simp) hm rfl rfl
      ?_⟩
    simp only [issue?, Cursor.occursAhead, Grammar.leftOpen?_blockComment hd, find?_isSome_iff,
      ht.infix_iff]
    split <;> rfl

theorem stringLiteral?_takes (h : stringLiteral? g c = some s) :
    s.rule = .stringLiteral ∧ ∃ t, s.Takes g c t := by
  have ⟨d, hd, h⟩ := Option.bind_eq_some_iff.mp h
  split at h
  case isFalse => contradiction
  case isTrue ho =>
    have hb : c.setMark.Moves d.opening.text (c.setMark.advanceBy d.opening.text.length) :=
      .advanceBy (startsWith_iff.mp ho).2
    have ⟨t, ht, hm⟩ :=
      Cursor.Moves.skipTo (c.setMark.advanceBy d.opening.text.length) d.closing.text
    have hs := hb.trans hm
    rw [← Option.some.inj h]
    refine ⟨rfl, _, .flushing (.stringLiteral hd hb.rest_eq ht) (by simp) hs rfl ?_ ?_⟩
    · simpa using (Cursor.Pends.setMark.moves hs).pending?_eq
    · simp only [issue?, Cursor.occursAhead, Grammar.leftOpen?_stringLiteral hd, find?_isSome_iff,
        ht.infix_iff]
      split <;> rfl

theorem symbol?_takes (h : symbol? g c = some s) : s.rule = .symbol ∧ ∃ t, s.Takes g c t := by
  have ⟨w, hw, h⟩ := Option.bind_eq_some_iff.mp h
  have ⟨hm, ho⟩ := Cursor.longestMatch?_matches hw
  have hp := (startsWith_iff.mp ho).2
  have hl : ∀ v ∈ g.symbols.words, v <+: c.rest → v.length ≤ w.length := by
    intro v hv hvp
    have hs : c.startsWith v := startsWith_iff.mpr ⟨g.symbols.ne_nil v hv, hvp⟩
    exact (Cursor.isPrefix_longestMatch? hw hv hs).length_le
  have hs : c.setMark.Moves w (c.setMark.advanceBy w.length) := .advanceBy hp
  rw [← Option.some.inj h]
  refine ⟨rfl, w, .flushing (.symbol hm hp hl) (by simp) hs rfl ?_ rfl⟩
  simpa using (Cursor.Pends.setMark.moves hs).pending?_eq

theorem run_takes (hc : c.rest ≠ []) : ∃ t, (run c).Takes g c t := by
  have ⟨ch, u, hr⟩ := List.exists_cons_of_ne_nil hc
  have hp : [ch] <+: c.rest := ⟨u, hr.symm⟩
  have hm : ∃ d : Cursor, (run c).cursor = d.advance ∧ d.toPlace = c.toPlace ∧
      d.mark = some (c.mark.getD c.toPlace) := by
    cases h : c.mark
    case none => exact ⟨c.setMark, by simp [run, h], rfl, rfl⟩
    case some => exact ⟨c, by simp [run, h], rfl, h⟩
  have ⟨d, he, hd, hk⟩ := hm
  have ha : d.Moves [ch] (run c).cursor := by
    have := @Cursor.Moves.advance d
    rwa [hd, ← he, hr] at this
  exact ⟨[ch], .run hp, hd ▸ ha.rest_eq, hd ▸ ha.passes, rfl, ha.mark_eq.trans hk, rfl, rfl, rfl⟩

end Step

namespace Grammar

variable {g : Grammar} {c : Cursor} {s : Step} {rule : Rule}

def stepBy? (g : Grammar) (c : Cursor) : Rule → Option Step
  | .blank => Step.blank? c
  | .lineComment => Step.lineComment? g c
  | .blockComment => Step.blockComment? g c
  | .stringLiteral => Step.stringLiteral? g c
  | .symbol => Step.symbol? g c
  | .run => some (Step.run c)

theorem stepBy?_takes (hc : c.rest ≠ []) (h : g.stepBy? c rule = some s) :
    s.rule = rule ∧ ∃ t, s.Takes g c t := by
  cases rule
  case blank => exact Step.blank?_takes h
  case lineComment => exact Step.lineComment?_takes h
  case blockComment => exact Step.blockComment?_takes h
  case stringLiteral => exact Step.stringLiteral?_takes h
  case symbol => exact Step.symbol?_takes h
  case run =>
    rw [← Option.some.inj h]
    exact ⟨rfl, Step.run_takes hc⟩

theorem stepBy?_ne_none (h : g.Applies c.rest rule) : g.stepBy? c rule ≠ none := by
  have hs {t : Text} (hn : t ≠ []) (hp : t <+: c.rest) : c.startsWith t :=
    startsWith_iff.mpr ⟨hn, hp⟩
  cases rule
  case blank =>
    have ⟨ch, hb, hp⟩ := h
    have hh := List.singleton_prefix_iff_head?_eq_some.mp hp
    simp [stepBy?, Step.blank?, Cursor.isBlankHere, Cursor.current?, hh, hb]
  case lineComment =>
    have ⟨m, hm, hp⟩ := h
    simp [stepBy?, Step.lineComment?, Option.mem_def.mp hm, hs m.ne_nil hp]
  case blockComment =>
    have ⟨d, hd, hp⟩ := h
    simp [stepBy?, Step.blockComment?, Option.mem_def.mp hd, hs d.opening.ne_nil hp]
  case stringLiteral =>
    have ⟨d, hd, hp⟩ := h
    simp [stepBy?, Step.stringLiteral?, Option.mem_def.mp hd, hs d.opening.ne_nil hp]
  case symbol =>
    have ⟨w, hw, hp⟩ := h
    have hn : c.longestMatch? g.symbols.words ≠ none := fun hn =>
      Cursor.longestMatch?_eq_none_iff.mp hn w hw (hs (g.symbols.ne_nil w hw) hp)
    have ⟨_, hl⟩ := Option.ne_none_iff_exists'.mp hn
    simp [stepBy?, Step.symbol?, hl]
  case run => simp [stepBy?]

theorem findSome?_stepBy? (g : Grammar) (c : Cursor) :
    Rule.inOrder.findSome? (g.stepBy? c) = some (g.step c) := by
  simp only [Rule.inOrder, List.findSome?_cons, List.findSome?_nil, stepBy?, step, rules]
  repeat split <;> try rfl

theorem step_eq_stepBy? (g : Grammar) (c : Cursor) :
    ∃ rule : Rule, g.stepBy? c rule = some (g.step c) ∧
      ∀ other : Rule, other.rank < rule.rank → g.stepBy? c other = none := by
  have ⟨l₁, rule, l₂, hl, hs, hn⟩ := List.findSome?_eq_some_iff.mp (g.findSome?_stepBy? c)
  refine ⟨rule, hs, fun other ho => hn other ?_⟩
  have hp := Rule.inOrder_pairwise
  have hm := Rule.mem_inOrder other
  rw [hl, List.pairwise_append, List.pairwise_cons] at hp
  rw [hl, List.mem_append, List.mem_cons] at hm
  rcases hm with hm | hm | hm
  case inl => exact hm
  case inr.inl => exact absurd (hm ▸ ho) (Nat.lt_irrefl _)
  case inr.inr => exact absurd (hp.2.1.1 other hm) (Nat.lt_asymm ho)

theorem step_takes (g : Grammar) (hc : c.rest ≠ []) :
    ∃ t, (g.step c).Takes g c t ∧ g.Cuts c.rest ⟨(g.step c).rule, t⟩ := by
  have ⟨rule, hs, hf⟩ := g.step_eq_stepBy? c
  have ⟨hr, t, ht⟩ := stepBy?_takes hc hs
  refine ⟨t, ht, ht.prescribed, fun other ho ha => ?_⟩
  exact stepBy?_ne_none ha (hf other (hr ▸ ho))

end Grammar
end LexicalScan
