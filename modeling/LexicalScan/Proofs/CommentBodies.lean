import LexicalScan.Proofs.Coverage

namespace LexicalScan

open Text Segment

def Delimiters.comment (d : Delimiters) (body : Text) : Text :=
  d.opening.text ++ ' ' :: (body ++ ' ' :: d.closing.text)

theorem exists_not_isBlank_ne (a b : Char) : ∃ c, ¬isBlank c ∧ c ≠ a ∧ c ≠ b := by
  by_contra h
  have he (c : Char) (hc : ¬isBlank c) : c = a ∨ c = b := by
    by_contra hn
    exact h ⟨c, hc, not_or.mp hn⟩
  have hx := he 'x' (by decide)
  have hy := he 'y' (by decide)
  have hz := he 'z' (by decide)
  grind

namespace Grammar

variable {g : Grammar} {d : Delimiters} {body t : Text} {s : Segment} {ss : List Segment}

-- A grammar without line comments and with the block comments `d`, whose markers have no blank in
-- them.
structure CommentsBy (g : Grammar) (d : Delimiters) : Prop where
  blockComment_eq : g.blockComment = some d
  lineComment_eq : g.lineComment = none
  opening : ∀ c ∈ d.opening.text, ¬isBlank c
  closing : ∀ c ∈ d.closing.text, ¬isBlank c

theorem Segmentation.scan_eq_empty_iff (h : g.Segmentation t ss) :
    g.scan t = {} ↔ lexicalPieces ss = [] ∧ ∀ s ∈ ss, g.leftOpen? s = none := by
  have hl : (g.scan t).lexemes = [] ↔ lexicalPieces ss = [] := by
    rw [← List.map_eq_nil_iff, h.map_text_lexemes, List.map_eq_nil_iff]
  have hi : (g.scan t).issues = [] ↔ ∀ s ∈ ss, g.leftOpen? s = none := by
    rw [← List.map_eq_nil_iff, h.map_construct_issues, List.filterMap_eq_nil_iff]
  rw [← hl, ← hi]
  cases g.scan t
  simp

namespace CommentsBy

variable (h : g.CommentsBy d)
include h

theorem space_not_mem_opening : ' ' ∉ d.opening.text :=
  fun hm => h.opening ' ' hm (by decide)

theorem space_not_mem_closing : ' ' ∉ d.closing.text :=
  fun hm => h.closing ' ' hm (by decide)

theorem cuts {u : Text} (ht : Through d.closing.text (d.opening.text ++ u) t) :
    g.Cuts (d.opening.text ++ u) ⟨.blockComment, t⟩ where
  prescribed := .blockComment h.blockComment_eq (List.prefix_append ..) ht
  first rule hr ha := by
    cases rule
    case blank =>
      have ⟨c, hc, hp⟩ := ha
      have ⟨o, os, ho⟩ := List.exists_cons_of_ne_nil d.opening.ne_nil
      rw [ho, List.cons_append, List.singleton_prefix_iff_head?_eq_some] at hp
      exact h.opening o (by simp [ho]) (Option.some.inj hp ▸ hc)
    case lineComment =>
      have ⟨m, hm, _⟩ := ha
      simp [h.lineComment_eq] at hm
    all_goals contradiction

theorem exists_isLexical {c : Char} {u : Text} (hs : g.Segmentation (c :: u) ss) (hc : ¬isBlank c)
    (ho : ¬d.opening.text <+: c :: u) : ∃ s ∈ ss, s.rule.isLexical := by
  have ⟨s, ss', he⟩ := List.exists_cons_of_ne_nil (mt hs.eq_nil_iff.mpr (List.cons_ne_nil c u))
  subst he
  refine ⟨s, List.mem_cons_self, ?_⟩
  have ha := hs.cuts.prescribed.applies
  cases hr : s.rule <;> rw [hr] at ha
  case blank =>
    have ⟨c', hc', hp⟩ := ha
    rw [List.singleton_prefix_iff_head?_eq_some, List.head?_cons, Option.some.injEq] at hp
    exact absurd (hp ▸ hc') hc
  case lineComment =>
    have ⟨m, hm, _⟩ := ha
    simp [h.lineComment_eq] at hm
  case blockComment =>
    have ⟨d', hd, hp⟩ := ha
    cases Option.mem_unique hd h.blockComment_eq
    exact absurd hp ho
  all_goals rfl

theorem through_comment (ho : ¬d.closing.text <:+: d.opening.text)
    (hb : ¬d.closing.text <:+: body) :
    Through d.closing.text (d.comment body) (d.comment body) := by
  have hs := h.space_not_mem_closing
  have hc : Through d.closing.text d.closing.text ([] ++ d.closing.text) :=
    .found List.prefix_rfl fun _ _ => Nat.zero_le _
  exact (hc.append_cons hb hs).append_cons ho hs

theorem scan_comment_eq (ho : ¬d.closing.text <:+: d.opening.text)
    (hb : ¬d.closing.text <:+: body) : g.scan (d.comment body) = {} := by
  have hs : g.Segmentation (d.comment body) [⟨.blockComment, d.comment body⟩] :=
    .cons (h.cuts (h.through_comment ho hb)) (List.append_nil _).symm .nil
  have hc : d.closing.text <:+: d.comment body :=
    ⟨d.opening.text ++ ' ' :: (body ++ [' ']), [], by simp [Delimiters.comment]⟩
  rw [hs.scan_eq_empty_iff, List.forall_mem_singleton, leftOpen?_blockComment h.blockComment_eq,
    if_pos (find?_isSome_iff.mpr hc)]
  exact ⟨@lexicalPieces_append_cons ⟨.blockComment, _⟩ [] [] (by simp), rfl⟩

-- Behind a part of the opening marker, what is left of the marker shows, or else what comes after
-- the space.
theorem exists_isLexical_behind {s v u : Text} {c : Char} (hv : d.opening.text = s ++ v)
    (hs : s ≠ []) (hc : ¬isBlank c) (ho : d.opening.text.head? ≠ some c) :
    ∃ ss, g.Segmentation (v ++ ' ' :: c :: u) ss ∧ ∃ s ∈ ss, s.rule.isLexical := by
  cases v
  case nil =>
    have ⟨ss, hss⟩ := g.exists_segmentation (c :: u)
    have ⟨s, hm, hl⟩ := h.exists_isLexical hss hc fun hp => by
      have ⟨w, hw⟩ := hp
      have hh : (d.opening.text ++ w).head? = d.opening.text.head? :=
        List.head?_append_of_ne_nil _ d.opening.ne_nil
      exact ho (by rw [← hh, hw, List.head?_cons])
    exact ⟨⟨.blank, [' ']⟩ :: ss, .cons (.blank (by decide)) rfl hss, s, .tail _ hm, hl⟩
  case cons a v =>
    have ⟨ss, hss⟩ := g.exists_segmentation (a :: v ++ ' ' :: c :: u)
    refine ⟨ss, hss, h.exists_isLexical hss (h.opening a (by simp [hv])) fun hp => ?_⟩
    -- The whole marker is longer than what is left of it, and has no space in it.
    have hp := (isPrefix_append_cons_iff (t := a :: v) h.space_not_mem_opening).mp hp
    have hl := List.length_pos_iff.mpr hs
    have := hp.length_le
    rw [hv, List.length_append] at this
    omega

theorem exists_scan_comment_ne (ho : d.closing.text <:+: d.opening.text) :
    ∃ body, ¬d.closing.text <:+: body ∧ g.scan (d.comment body) ≠ {} := by
  have ⟨a, _, ha⟩ := List.exists_cons_of_ne_nil d.opening.ne_nil
  have ⟨b, _, hb⟩ := List.exists_cons_of_ne_nil d.closing.ne_nil
  have ⟨c, hc, hca, hcb⟩ := exists_not_isBlank_ne a b
  have hn : ¬d.closing.text <:+: [c] := fun hi => by
    have hm : b ∈ [c] := hi.subset (by simp [hb])
    exact hcb (List.mem_singleton.mp hm).symm
  have ⟨s, hs⟩ := exists_through d.closing.text d.opening.text
  have ⟨v, hv⟩ := hs.isPrefix
  have ⟨ss, hss, r, hr, hl⟩ := h.exists_isLexical_behind (u := ' ' :: d.closing.text) hv.symm
    (hs.ne_nil d.closing.ne_nil d.opening.ne_nil) hc (by simp [ha, hca.symm])
  have hg : g.Segmentation (d.comment [c]) (⟨.blockComment, s⟩ :: ss) := by
    refine .cons (h.cuts (hs.append (hs.infix_iff.mpr ho))) ?_ hss
    simp [Delimiters.comment, ← hv]
  refine ⟨[c], hn, fun he => ?_⟩
  exact lexicalPieces_ne_nil (.tail _ hr) hl (hg.scan_eq_empty_iff.mp he).1

end CommentsBy

theorem scan_comment_eq_empty_iff (h : g.CommentsBy d) :
    (∀ body, ¬d.closing.text <:+: body → g.scan (d.comment body) = {}) ↔
      ¬d.closing.text <:+: d.opening.text := by
  constructor
  case mp =>
    intro hall ho
    have ⟨body, hb, hn⟩ := h.exists_scan_comment_ne ho
    exact hn (hall body hb)
  case mpr => exact fun ho _ => h.scan_comment_eq ho

-- Markers that overlap, and symbols and a literal that begin like them.
theorem scan_comment_eq_empty_iff_overlapping :
    let d : Delimiters := ⟨⟨['(', '*'], by simp⟩, ⟨['*', ')'], by simp⟩⟩
    let g : Grammar :=
      { symbols := .ofList [['('], ['*']]
        string := some ⟨⟨['('], by simp⟩, ⟨[')'], by simp⟩⟩
        blockComment := some d }
    g.CommentsBy d ∧ ¬d.closing.text <:+: d.opening.text ∧
    ∀ body, ¬d.closing.text <:+: body → g.scan (d.comment body) = {} := by
  intro d g
  have h : g.CommentsBy d := ⟨rfl, rfl, by simp [d, isBlank, blanks], by simp [d, isBlank, blanks]⟩
  have ho : ¬d.closing.text <:+: d.opening.text := by decide
  exact ⟨h, ho, (scan_comment_eq_empty_iff h).mpr ho⟩

-- A comment whose markers are the same ends with its opening marker.
theorem scan_comment_visible :
    ¬∀ (g : Grammar) (d : Delimiters) (body : Text), g.CommentsBy d →
      ¬d.closing.text <:+: body → g.scan (d.comment body) = {} := by
  intro h
  let d : Delimiters := ⟨⟨['#'], by simp⟩, ⟨['#'], by simp⟩⟩
  let g : Grammar := { blockComment := some d }
  have hd : g.CommentsBy d := ⟨rfl, rfl, by simp [d, isBlank, blanks], by simp [d, isBlank, blanks]⟩
  have he : g.scan "# x #".toList = {} := h g d ['x'] hd (by decide)
  have hx : g.scan "# x #".toList = { lexemes := [⟨['x'], ⟨2, 1, 3⟩⟩] } := by decide +kernel
  simpa using he.symm.trans hx

end Grammar
end LexicalScan
