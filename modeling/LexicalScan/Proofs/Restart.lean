import LexicalScan.Proofs.Positions

namespace LexicalScan

open Text Segment

namespace Position

-- The line and column of a place, counted from `origin` on: on the line of `origin` columns start
-- over as well.
structure Rebases (origin : Position) (line column line' column' : UInt32) : Prop where
  line_eq : line'.toNat + (origin.line.toNat - 1) = line.toNat
  column_eq :
    column'.toNat + (if line = origin.line then origin.column.toNat - 1 else 0) = column.toNat

theorem IsAfter.rebases {origin p q : Position} {before t : Text} (ho : origin.IsAfter before)
    (hp : p.IsAfter (before ++ t)) (hq : q.IsAfter t) :
    origin.Rebases p.line p.column q.line q.column := by
  have h₁ := hp.line_eq
  have h₂ := hp.column_eq
  rw [List.count_append] at h₁
  rw [lastLine_append] at h₂
  constructor
  case line_eq =>
    rw [h₁, hq.line_eq, ho.line_eq]
    omega
  case column_eq =>
    by_cases hn : '\n' ∈ t
    case pos =>
      have hc := List.count_pos_iff.mpr hn
      have hl : p.line ≠ origin.line := fun he => by
        have := ho.line_eq
        rw [← he] at this
        omega
      rw [if_neg hl, hq.column_eq, h₂, if_pos hn, Nat.add_zero]
    case neg =>
      have hc := List.count_eq_zero.mpr hn
      have hl : p.line = origin.line := UInt32.toNat_inj.mp (by rw [h₁, ho.line_eq, hc]; omega)
      have ht : lastLine t = t := by simpa [hn] using @lastLine_append [] t
      rw [if_pos hl, hq.column_eq, h₂, if_neg hn, ht, ho.column_eq, List.length_append]
      omega

theorem rebases_after {before t rest : Text} (h : (before ++ rest).length < 2 ^ 32 - 1)
    (ht : t <+: rest) :
    (after before).Rebases (after (before ++ t)).line (after (before ++ t)).column (after t).line
      (after t).column := by
  have hp : before ++ t <+: before ++ rest := (List.prefix_append_right_inj before).mpr ht
  have hb : (before ++ t).length < 2 ^ 32 - 1 := hp.length_le.trans_lt h
  apply IsAfter.rebases
  case ho => exact isAfter_after ((List.prefix_append before t).length_le.trans_lt hb)
  case hp => exact isAfter_after hb
  case hq => exact isAfter_after ((List.suffix_append before t).length_le.trans_lt hb)

end Position

structure Lexeme.IsRebased (origin : Position) (l l' : Lexeme) : Prop where
  text_eq : l'.text = l.text
  offset_eq : l'.start.offset + origin.offset = l.start.offset
  coordinates : origin.Rebases l.start.line l.start.column l'.start.line l'.start.column

structure Issue.IsRebased (origin : Position) (i i' : Issue) : Prop where
  construct_eq : i'.construct = i.construct
  coordinates : origin.Rebases i.line i.column i'.line i'.column

namespace Grammar

variable {g : Grammar} {source before rest : Text} {ss ss₁ ss₂ : List Segment}

namespace Segmentation

-- The pieces of a source behind the text `before` are those of the source, with their places
-- counted from the end of `before` on.
theorem lexemes_rebased (h : g.Segmentation rest ss) (hb : (before ++ rest).length < 2 ^ 32 - 1) :
    List.Forall₂ (Lexeme.IsRebased (.after before)) ((Placed.lexical before ss).map Placed.lexeme)
      (g.scan rest).lexemes := by
  have hr : rest.length < 2 ^ 32 - 1 := (List.suffix_append before rest).length_le.trans_lt hb
  rw [h.lexemes_eq hr, Placed.lexical_behind, List.map_map, List.forall₂_map_left_iff,
    List.forall₂_map_right_iff]
  refine List.forall₂_same.mpr fun x hx => ⟨rfl, ?_, ?_⟩
  · simp [Placed.behind, Nat.add_comm]
  · obtain ⟨_, after, hs⟩ := h.exists_of_mem_lexical hx
    rw [List.append_assoc] at hs
    exact Position.rebases_after hb ⟨_, hs.symm⟩

theorem issues_rebased (h : g.Segmentation rest ss) (hb : (before ++ rest).length < 2 ^ 32 - 1) :
    List.Forall₂ (Issue.IsRebased (.after before))
      ((Placed.inRow before ss).filterMap (Placed.issue? g)) (g.scan rest).issues := by
  have hr : rest.length < 2 ^ 32 - 1 := (List.suffix_append before rest).length_le.trans_lt hb
  have hl : List.Forall₂ (fun y x => y = x.behind before ∧ x ∈ Placed.inRow [] ss)
      (Placed.inRow before ss) (Placed.inRow [] ss) := by
    rw [@Placed.inRow_behind before, List.forall₂_map_left_iff]
    exact List.forall₂_same.mpr fun x hx => ⟨rfl, hx⟩
  rw [h.issues_eq hr]
  refine List.rel_filterMap (fun y x ⟨hy, hx⟩ => ?_) hl
  have ⟨after, hs, _⟩ := h.exists_of_mem_inRow hx
  rw [List.append_assoc] at hs
  cases ho : g.leftOpen? x.segment
  case none => simp [Placed.issue?, hy, Placed.behind, ho]
  case some construct =>
    simp only [Placed.issue?, hy, Placed.behind, ho, Option.map_some]
    exact .some ⟨rfl, Position.rebases_after hb ⟨_, hs.symm⟩⟩

theorem issues_of_append (h : g.Segmentation source (ss₁ ++ ss₂))
    (ho : ∀ s ∈ ss₁, g.leftOpen? s = none) (hb : source.length < 2 ^ 32 - 1) :
    (g.scan source).issues = (Placed.inRow (concat ss₁) ss₂).filterMap (Placed.issue? g) := by
  have he := (@Placed.filterMap_issue?_eq_nil_iff g [] ss₁).mpr ho
  rw [h.issues_eq hb, Placed.inRow_append, List.filterMap_append, he, List.nil_append,
    List.nil_append]

end Segmentation

theorem scan_restart (g : Grammar) {source : Text} {l : Lexeme} {earlier later : List Lexeme}
    (hb : source.length < 2 ^ 32 - 1) (hl : (g.scan source).lexemes = earlier ++ l :: later) :
    ∃ before rest, source = before ++ rest ∧ size before = l.start.offset ∧
      List.Forall₂ (Lexeme.IsRebased l.start) (l :: later) (g.scan rest).lexemes ∧
      List.Forall₂ (Issue.IsRebased l.start) (g.scan source).issues (g.scan rest).issues := by
  have ⟨ss, h⟩ := g.exists_segmentation source
  rw [h.lexemes_eq hb] at hl
  have ⟨xs, ys, hx, _, hy⟩ := List.map_eq_append_iff.mp hl
  have ⟨x, zs, hz, he, hm⟩ := List.map_eq_cons_iff.mp hy
  have ⟨ss₁, ss₂, hs, hp, hr⟩ := Placed.exists_of_lexical_eq_append (hz ▸ hx)
  rw [List.nil_append] at hp
  rw [hp] at hr
  subst hs
  have ho : l.start = .after (concat ss₁) := by simp [← he, hp]
  have hc : concat ss₁ ++ concat ss₂ = source := by simp [← h.concat_eq]
  have hn : ss₂ ≠ [] := fun hn => by simp [hn] at hr
  rw [ho, h.issues_of_append (fun _ => h.leftOpen?_eq_none hn) hb]
  refine ⟨concat ss₁, concat ss₂, hc.symm, by simp, ?_, h.of_append.issues_rebased (hc ▸ hb)⟩
  have hf := h.of_append.lexemes_rebased (hc ▸ hb)
  rwa [hr, List.map_cons, he, hm] at hf

theorem scan_restart_cLike :
    let source := "é==x\n=y /* ü".toList
    let l : Lexeme := ⟨"==".toList, ⟨2, 1, 2⟩⟩
    let later : List Lexeme :=
      [⟨"x".toList, ⟨4, 1, 4⟩⟩, ⟨"=".toList, ⟨6, 2, 1⟩⟩, ⟨"y".toList, ⟨7, 2, 2⟩⟩]
    source.length < 2 ^ 32 - 1 ∧
    (cLike.scan source).lexemes = [⟨"é".toList, ⟨0, 1, 1⟩⟩] ++ l :: later ∧
    ∃ before rest, source = before ++ rest ∧ size before = l.start.offset ∧
      List.Forall₂ (Lexeme.IsRebased l.start) (l :: later) (cLike.scan rest).lexemes ∧
      List.Forall₂ (Issue.IsRebased l.start) (cLike.scan source).issues
        (cLike.scan rest).issues := by
  intro source l later
  have hl : (cLike.scan source).lexemes = [⟨"é".toList, ⟨0, 1, 1⟩⟩] ++ l :: later := by
    decide +kernel
  exact ⟨by decide, hl, scan_restart cLike (by decide) hl⟩

end Grammar
end LexicalScan
