import LexicalScan.Proofs.Lines

namespace LexicalScan

open Text Segment

namespace Text

variable {s t : Text}

def blankOut (t : Text) : Text :=
  t.map fun c => if c = '\n' then '\n' else ' '

theorem isBlank_of_mem_blankOut {c : Char} (h : c ∈ blankOut t) : isBlank c := by
  have ⟨d, _, hd⟩ := List.mem_map.mp h
  rw [← hd]
  split <;> decide

def layout (t : Text) : List Bool :=
  t.map (· == '\n')

@[simp]
theorem layout_append : layout (s ++ t) = layout s ++ layout t := by
  simp [layout]

@[simp]
theorem layout_blankOut : layout (blankOut t) = layout t := by
  simp only [layout, blankOut, List.map_map, List.map_inj_left]
  intro c _
  by_cases hc : c = '\n' <;> simp [hc]

theorem length_layout : (layout t).length = t.length :=
  List.length_map _

theorem count_newline_eq : t.count '\n' = (layout t).count true := by
  induction t
  case nil => rfl
  case cons c t ih => simp_all [layout, List.count_cons]

theorem length_lastLine_eq :
    (lastLine t).length = ((layout t).reverse.takeWhile (!·)).length := by
  simp only [lastLine, layout, ← List.map_reverse, List.takeWhile_map, List.length_map,
    List.length_reverse]
  rfl

end Text

theorem Position.coordinates_after {s t : Text} (h : layout s = layout t) :
    (after s).line = (after t).line ∧ (after s).column = (after t).column := by
  have hl : s.length = t.length := by rw [← length_layout, h, length_layout]
  have hc : s.count '\n' = t.count '\n' := by rw [count_newline_eq, h, ← count_newline_eq]
  have hm : '\n' ∈ s ↔ '\n' ∈ t := by rw [← List.count_pos_iff, hc, List.count_pos_iff]
  have hn : (lastLine s).length = (lastLine t).length := by
    rw [length_lastLine_eq, h, ← length_lastLine_eq]
  simp only [after, skip, hl, hc, hm, hn, and_self]

namespace Segment

variable {s : Segment} {ss : List Segment}

def blankOut (s : Segment) : List Segment :=
  if s.rule.isComment then (Text.blankOut s.text).map fun c => ⟨.blank, [c]⟩ else [s]

theorem blankOut_of_isComment (h : s.rule.isComment) :
    blankOut s = (Text.blankOut s.text).map fun c => ⟨.blank, [c]⟩ :=
  if_pos h

theorem blankOut_of_not_isComment (h : ¬s.rule.isComment) : blankOut s = [s] :=
  if_neg h

theorem concat_map_blank {t : Text} : concat (t.map fun c => ⟨.blank, [c]⟩) = t := by
  simp [concat, List.flatMap_map]

@[simp]
theorem layout_concat_blankOut : layout (concat s.blankOut) = layout s.text := by
  unfold blankOut
  split
  case isTrue => rw [concat_map_blank, layout_blankOut]
  case isFalse => simp

theorem layout_concat_flatMap_blankOut :
    layout (concat (ss.flatMap blankOut)) = layout (concat ss) := by
  induction ss
  case nil => rfl
  case cons ih => simp [ih]

end Segment

namespace Grammar

variable {g : Grammar} {c : Cursor} {steps : List Step} {source t u : Text} {s : Segment}
  {ss : List Segment}

def blankSteps (ahead : Text) : List Step → Text
  | [] => []
  | s :: steps =>
    (if s.rule.isComment then blankOut (s.taken ahead) else s.taken ahead) ++
      blankSteps s.cursor.rest steps

-- The source with every comment that its scan takes blanked out.
def blankComments (g : Grammar) (source : Text) : Text :=
  blankSteps source (g.steps (.ofText source))

theorem Run.blankSteps_eq (h : g.Run c steps ss) :
    blankSteps c.rest steps = concat (ss.flatMap Segment.blankOut) := by
  induction h
  case nil => rfl
  case cons s t steps ss ht _ _ ih =>
    rw [blankSteps, ih, ht.taken_eq, List.flatMap_cons, concat_append]
    congr 1
    unfold Segment.blankOut
    split
    case isTrue => exact concat_map_blank.symm
    case isFalse => simp

theorem Segmentation.blankComments_eq (h : g.Segmentation source ss) :
    g.blankComments source = concat (ss.flatMap Segment.blankOut) :=
  h.run.blankSteps_eq

theorem Cuts.blankOut_eq_cons (h : g.Cuts t s) (hr : s.rule.isComment) :
    ∃ u, Text.blankOut s.text = ' ' :: u := by
  have ⟨c, u, hs⟩ := List.exists_cons_of_ne_nil h.prescribed.ne_nil
  have hc : c ≠ '\n' := by
    rintro rfl
    have hp : ['\n'] <+: t := .trans ⟨u, hs.symm⟩ h.prescribed.isPrefix
    refine h.first .blank ?_ ⟨'\n', by decide, hp⟩
    cases hs : s.rule <;> simp_all [Rule.isComment, Rule.rank]
  exact ⟨Text.blankOut u, by simp [hs, Text.blankOut, hc]⟩

namespace Segmentation

theorem blanks (h : g.Segmentation u ss) (ht : ∀ c ∈ t, isBlank c) :
    g.Segmentation (t ++ u) (t.map (fun c => ⟨.blank, [c]⟩) ++ ss) := by
  induction t
  case nil => exact h
  case cons c t ih =>
    exact .cons (.blank (ht c (by simp))) rfl (ih fun c hc => ht c (by simp [hc]))

theorem blankOut_forks (h : g.Segmentation t ss) :
    ∃ v, v <+: t ∧ (concat (ss.flatMap Segment.blankOut) = v ∨
      ∃ w, concat (ss.flatMap Segment.blankOut) = v ++ ' ' :: w) := by
  induction h
  case nil => exact ⟨[], List.prefix_rfl, .inl rfl⟩
  case cons s t u ss hc ht hr ih =>
    by_cases hs : s.rule.isComment
    case pos =>
      have ⟨w, hw⟩ := hc.blankOut_eq_cons hs
      refine ⟨[], List.nil_prefix, .inr ⟨w ++ concat (ss.flatMap Segment.blankOut), ?_⟩⟩
      simp [blankOut_of_isComment hs, concat_map_blank, hw]
    case neg =>
      have ⟨v, hv, hf⟩ := ih
      refine ⟨s.text ++ v, ht ▸ (List.prefix_append_right_inj _).mpr hv, ?_⟩
      simpa [blankOut_of_not_isComment hs] using hf

-- Where the text behind a segment is blanked out, the segment is cut off as before: whatever rule
-- reaches beyond the segment stops short of the space.
theorem cuts_append_blankOut (h : g.Segmentation u ss) (hg : g.OpensWithout ' ')
    (hc : g.Cuts (s.text ++ u) s) (hs : ¬s.rule.isComment) :
    g.Cuts (s.text ++ concat (ss.flatMap Segment.blankOut)) s := by
  cases ho : g.leftOpen? s
  case none =>
    have he : g.Ends s := ⟨ho, fun hr => absurd (hr ▸ rfl) hs⟩
    have ⟨v, hv, hf⟩ := h.blankOut_forks
    have hp : s.text ++ v <+: s.text ++ u := (List.prefix_append_right_inj _).mpr hv
    have hc := hc.of_isPrefix hs (List.prefix_append ..) hp
    cases hf
    case inl hf => exact hf ▸ hc
    case inr hf =>
      have ⟨w, hf⟩ := hf
      rw [hf, ← List.append_assoc]
      exact hc.append_cons hg he
  case some =>
    -- What is left open has nothing behind it.
    have ⟨ht, _⟩ := hc.of_leftOpen?_eq_some ho
    have hu : u = [] := by simpa using ht
    rw [h.eq_nil_iff.mp hu]
    rwa [hu] at hc

theorem blankOut (h : g.Segmentation t ss) (hg : g.OpensWithout ' ') :
    g.Segmentation (concat (ss.flatMap Segment.blankOut)) (ss.flatMap Segment.blankOut) := by
  induction h
  case nil => exact .nil
  case cons s t u ss hc ht hr ih =>
    rw [List.flatMap_cons, concat_append]
    by_cases hs : s.rule.isComment
    case pos =>
      rw [blankOut_of_isComment hs, concat_map_blank]
      exact ih.blanks fun c => isBlank_of_mem_blankOut
    case neg =>
      rw [blankOut_of_not_isComment hs, concat_cons, concat_nil, List.append_nil]
      exact .cons (hr.cuts_append_blankOut hg (ht ▸ hc) hs) rfl ih

end Segmentation
end Grammar

namespace Placed

variable {g : Grammar} {before before' : Text} {s : Segment} {ss : List Segment}

structure IsLike (x y : Placed) : Prop where
  segment_eq : x.segment = y.segment
  layout_eq : layout x.before = layout y.before

theorem lexical_isLike (h : layout before = layout before') :
    List.Forall₂ IsLike (lexical before ss) (lexical before' ss) := by
  rw [lexical_behind, @lexical_behind before', List.forall₂_map_left_iff,
    List.forall₂_map_right_iff]
  exact List.forall₂_same.mpr fun x _ => ⟨rfl, by simp [behind, h]⟩

-- Comments part lexemes as blanks do. The segments `ps` are those since the last comment.
theorem lexical_blankOut (hs : ∀ s ∈ ss, s.text ≠ []) (h : layout before = layout before')
    (ps : List Segment) :
    List.Forall₂ IsLike (lexical before (ps ++ ss))
      (lexical before' (ps ++ ss.flatMap Segment.blankOut)) := by
  induction ss generalizing before before' ps
  case nil => simpa using lexical_isLike h
  case cons s ss ih =>
    have ih {before before' : Text} := @ih before before' fun s hm => hs s (by simp [hm])
    by_cases hr : s.rule.isComment
    case neg =>
      have := ih h (ps ++ [s])
      simpa [blankOut_of_not_isComment hr] using this
    case pos =>
      have hn : s.blankOut ≠ [] := by simp [blankOut_of_isComment hr, Text.blankOut, hs]
      have hb : ∀ b ∈ s.blankOut, ¬b.rule.isLexical := by
        simp [blankOut_of_isComment hr, Rule.isLexical]
      have hl : ∀ b ∈ [s], ¬b.rule.isLexical := fun b hb hl => by
        rw [List.mem_singleton.mp hb] at hl
        exact Rule.not_isComment_of_isLexical hl hr
      have h₁ := @lexical_append_append before ps ss [s] hl (by simp)
      have h₂ := @lexical_append_append before' ps (ss.flatMap Segment.blankOut) _ hb hn
      rw [List.append_assoc, List.singleton_append] at h₁
      rw [List.append_assoc] at h₂
      rw [List.flatMap_cons, h₁, h₂]
      exact List.rel_append (lexical_isLike h) (ih (by simp [h]) [])

theorem issue?_eq_of_layout_eq (h : layout before = layout before') :
    issue? g ⟨before, s⟩ = issue? g ⟨before', s⟩ := by
  have ⟨hl, hc⟩ := Position.coordinates_after h
  simp [issue?, Issue.unterminated, hl, hc]

theorem issues_blankOut_segment (h : layout before = layout before') :
    (inRow before' s.blankOut).filterMap (issue? g) =
      ((inRow before [s]).filterMap (issue? g)).filter (·.construct = .stringLiteral) := by
  have hc : ∀ i ∈ (inRow before [s]).filterMap (issue? g),
      (i.construct = .stringLiteral ↔ ¬s.rule.isComment) := by
    intro i hi
    have ⟨x, hx, hi⟩ := List.mem_filterMap.mp hi
    have ⟨_, ho, he⟩ := Option.map_eq_some_iff.mp hi
    rw [List.mem_singleton.mp hx] at ho
    exact he ▸ Grammar.eq_stringLiteral_iff_of_leftOpen?_eq_some ho
  by_cases hr : s.rule.isComment
  case pos =>
    have hl : (inRow before' s.blankOut).filterMap (issue? g) = [] := by
      rw [filterMap_issue?_eq_nil_iff]
      simp [blankOut_of_isComment hr, Grammar.leftOpen?]
    rw [hl, eq_comm, List.filter_eq_nil_iff]
    exact fun i hi hk => (hc i hi).mp (of_decide_eq_true hk) hr
  case neg =>
    have hf : ((inRow before [s]).filterMap (issue? g)).filter (·.construct = .stringLiteral) =
        (inRow before [s]).filterMap (issue? g) :=
      List.filter_eq_self.mpr fun i hi => decide_eq_true ((hc i hi).mpr hr)
    rw [hf, blankOut_of_not_isComment hr]
    simp [inRow, List.filterMap_cons, issue?_eq_of_layout_eq h]

theorem issues_blankOut (h : layout before = layout before') :
    (inRow before' (ss.flatMap Segment.blankOut)).filterMap (issue? g) =
      ((inRow before ss).filterMap (issue? g)).filter (·.construct = .stringLiteral) := by
  induction ss generalizing before before'
  case nil => rfl
  case cons s ss ih =>
    have hs : layout (before ++ s.text) = layout (before' ++ concat s.blankOut) := by simp [h]
    have hr : inRow before (s :: ss) = inRow before [s] ++ inRow (before ++ s.text) ss := rfl
    rw [List.flatMap_cons, inRow_append, hr, List.filterMap_append, List.filterMap_append,
      List.filter_append, issues_blankOut_segment h, ih hs]

end Placed

namespace Grammar

variable {g : Grammar} {source : Text}

theorem scan_blankComments (hg : g.OpensWithout ' ') (hb : source.length < 2 ^ 32 - 1) :
    (g.scan (g.blankComments source)).lexemes.map
        (fun l => (l.text, l.start.line, l.start.column)) =
      (g.scan source).lexemes.map (fun l => (l.text, l.start.line, l.start.column)) ∧
    (g.scan (g.blankComments source)).issues =
      (g.scan source).issues.filter (·.construct = .stringLiteral) := by
  have ⟨ss, h⟩ := g.exists_segmentation source
  have h' := h.blankOut hg
  have hb' : (concat (ss.flatMap Segment.blankOut)).length < 2 ^ 32 - 1 := by
    rwa [← length_layout, layout_concat_flatMap_blankOut, length_layout, h.concat_eq]
  rw [h.blankComments_eq]
  constructor
  case left =>
    have hl := @Placed.lexical_blankOut [] [] ss (fun _ => h.ne_nil) rfl []
    rw [h'.lexemes_eq hb', h.lexemes_eq hb, List.map_map, List.map_map, eq_comm,
      ← List.forall₂_eq_eq_eq, List.forall₂_map_left_iff, List.forall₂_map_right_iff]
    refine hl.imp fun x y hxy => ?_
    have ⟨hl, hc⟩ := Position.coordinates_after hxy.layout_eq
    simp [hxy.segment_eq, hl, hc]
  case right =>
    rw [h'.issues_eq hb', h.issues_eq hb]
    exact Placed.issues_blankOut rfl

theorem scan_blankComments_cLike :
    let source := "=/*é*/= // \"\nx/*ü\n*/\"/*".toList
    cLike.blankComments source = "=     =     \nx   \n  \"/*".toList ∧
    cLike.OpensWithout ' ' ∧ source.length < 2 ^ 32 - 1 ∧
    (cLike.scan (cLike.blankComments source)).lexemes.map
        (fun l => (l.text, l.start.line, l.start.column)) =
      (cLike.scan source).lexemes.map (fun l => (l.text, l.start.line, l.start.column)) ∧
    (cLike.scan (cLike.blankComments source)).issues =
      (cLike.scan source).issues.filter (·.construct = .stringLiteral) := by
  have hg : cLike.OpensWithout ' ' := ⟨by decide, by decide, by decide, by decide⟩
  exact ⟨by decide +kernel, hg, by decide, scan_blankComments hg (by decide)⟩

end Grammar
end LexicalScan
