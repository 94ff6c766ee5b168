import LexicalScan.Proofs.Lines
import LexicalScan.Token

namespace LexicalScan

open Text Segment

def Scan.joined (s : Scan) : Text :=
  ['\n'].intercalate (s.lexemes.map Lexeme.text)

namespace Grammar

variable {g : Grammar} {source t u : Text} {bs ss : List Segment}

theorem filterMap_leftOpen?_lexicalPieces :
    (lexicalPieces ss).filterMap g.leftOpen? =
      (ss.filterMap g.leftOpen?).filter (· = .stringLiteral) := by
  have hr : ∀ s : Segment, s.rule = .run → g.leftOpen? s = none := fun s hs => by
    simp [leftOpen?, hs]
  rw [← @filterMap_pieces ss _ _ hr, lexicalPieces, List.filterMap_filter, List.filter_filterMap]
  congr 1
  funext s
  cases ho : g.leftOpen? s
  case none => simp
  case some construct =>
    have hs := rule_of_leftOpen?_eq_some ho
    cases construct <;> simp [hs, Construct.rule, Rule.isLexical, Option.filter]

namespace Segmentation

theorem append_newline_cons (hb : g.Segmentation t bs) (h : g.Segmentation u ss)
    (hg : g.OpensWithout '\n') (hc : ∀ s ∈ bs, ¬s.rule.isComment)
    (ho : ∀ s ∈ bs, g.leftOpen? s = none) :
    g.Segmentation (t ++ '\n' :: u) (bs ++ ⟨.blank, ['\n']⟩ :: ss) := by
  have ⟨bs', hn, hs⟩ := hb.append_newline hg ho h
  cases hn
  case blank => simpa using hs
  case lineComment => exact absurd rfl (hc _ List.mem_concat_self)

theorem lexicalPiece {p : Segment} (h : g.Segmentation t (bs ++ ss)) (hb : pieces bs = [p])
    (hr : p.rule.isLexical) : g.Segmentation p.text bs ∧ ∀ s ∈ bs, ¬s.rule.isComment := by
  have hc : ∀ s ∈ bs, ¬s.rule.isComment := fun s hs => by
    rw [rule_eq_of_pieces_eq_singleton hb hs]
    exact Rule.not_isComment_of_isLexical hr
  have ht : concat bs = p.text := by simp [← @concat_pieces bs, hb]
  exact ⟨ht ▸ h.of_append_left hc, hc⟩

-- The lexical pieces on lines of their own are cut as they were. The induction is on the pieces:
-- what is left open can only be the last of them, which no newline follows.
theorem exists_joined {ps : List Segment} (hg : g.OpensWithout '\n') (h : g.Segmentation t ss)
    (hp : pieces ss = ps) :
    ∃ ss', g.Segmentation (['\n'].intercalate ((lexicalPieces ss).map Segment.text)) ss' ∧
      lexicalPieces ss' = lexicalPieces ss ∧ ∀ s ∈ ss', ¬s.rule.isComment := by
  induction ps generalizing t ss
  case nil =>
    rw [pieces_eq_nil_iff.mp hp]
    exact ⟨[], .nil, rfl, by simp⟩
  case cons p ps ih =>
    have ⟨bs, ss, he, hb, hs⟩ := @exists_of_pieces_eq_append _ [p] ps hp
    subst he
    have ⟨ss', hj, hl, hc⟩ := ih h.of_append hs
    by_cases hr : p.rule.isLexical
    case neg =>
      have he : lexicalPieces (bs ++ ss) = lexicalPieces ss := by simp [lexicalPieces, hp, hs, hr]
      exact he ▸ ⟨ss', hj, hl, hc⟩
    case pos =>
      have he : lexicalPieces (bs ++ ss) = p :: lexicalPieces ss := by
        simp [lexicalPieces, hp, hs, hr]
      have hlb : lexicalPieces bs = [p] := by simp [lexicalPieces, hb, hr]
      obtain ⟨hbs, hcb⟩ := h.lexicalPiece hb hr
      by_cases hn : lexicalPieces ss = []
      case pos => exact ⟨bs, by simpa [he, hn] using hbs, by simp [he, hn, hlb], hcb⟩
      case neg =>
        have hss : ss ≠ [] := fun hss => hn (by rw [hss]; rfl)
        have ho : ∀ s ∈ bs, g.leftOpen? s = none := fun _ => h.leftOpen?_eq_none hss
        refine ⟨bs ++ ⟨.blank, ['\n']⟩ :: ss', ?_, ?_, ?_⟩
        · have := hbs.append_newline_cons hj hg hcb ho
          simpa [he, List.intercalate_cons_of_ne_nil, hn] using this
        · simp [lexicalPieces_append_cons, Rule.isLexical, he, hlb, hl]
        · rw [List.forall_mem_append, List.forall_mem_cons]
          exact ⟨hcb, by decide, hc⟩

end Segmentation

theorem scan_joined (hg : g.OpensWithout '\n') (source : Text) :
    (g.scan (g.scan source).joined).lexemes.map Lexeme.text =
      (g.scan source).lexemes.map Lexeme.text ∧
    (g.scan (g.scan source).joined).lexemes.map (fun l => (g.token l).kind) =
      (g.scan source).lexemes.map (fun l => (g.token l).kind) ∧
    (g.scan (g.scan source).joined).issues.map Issue.construct =
      ((g.scan source).issues.map Issue.construct).filter (· = .stringLiteral) := by
  have ⟨ss, h⟩ := g.exists_segmentation source
  have ⟨ss', h', hl, hc⟩ := h.exists_joined hg rfl
  rw [← h.map_text_lexemes, ← Scan.joined] at h'
  have ht : (g.scan (g.scan source).joined).lexemes.map Lexeme.text =
      (g.scan source).lexemes.map Lexeme.text := by
    rw [h'.map_text_lexemes, h.map_text_lexemes, hl]
  refine ⟨ht, ?_, ?_⟩
  · have := congrArg (List.map g.classify) ht
    simpa [token, Function.comp_def] using this
  · have hs : (ss'.filterMap g.leftOpen?).filter (· = .stringLiteral) =
        ss'.filterMap g.leftOpen? := by
      refine List.filter_eq_self.mpr fun construct hm => decide_eq_true ?_
      have ⟨s, hm, ho⟩ := List.mem_filterMap.mp hm
      exact (eq_stringLiteral_iff_of_leftOpen?_eq_some ho).mpr (hc s hm)
    rw [h.map_construct_issues, h'.map_construct_issues, ← hs,
      ← filterMap_leftOpen?_lexicalPieces, ← filterMap_leftOpen?_lexicalPieces, hl]

theorem scan_joined_cLike :
    let source := "x==/*\n*/=\"// \n\"é,\"/*".toList
    (cLike.scan source).joined = "x\n==\n=\n\"// \n\"\né\n,\n\"/*".toList ∧
    cLike.OpensWithout '\n' ∧
    (cLike.scan (cLike.scan source).joined).lexemes.map Lexeme.text =
      (cLike.scan source).lexemes.map Lexeme.text ∧
    (cLike.scan (cLike.scan source).joined).lexemes.map (fun l => (cLike.token l).kind) =
      (cLike.scan source).lexemes.map (fun l => (cLike.token l).kind) ∧
    (cLike.scan (cLike.scan source).joined).issues.map Issue.construct =
      ((cLike.scan source).issues.map Issue.construct).filter (· = .stringLiteral) := by
  have hg : cLike.OpensWithout '\n' := ⟨by decide, by decide, by decide, by decide⟩
  exact ⟨by decide +kernel, hg, scan_joined hg _⟩

end Grammar
end LexicalScan
