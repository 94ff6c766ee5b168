import LexicalScan.Proofs.Restart

namespace LexicalScan

open Text Segment

namespace Segment

variable {before : Text} {s : Segment} {ss ss' bs : List Segment}

-- The segments `ss'` take a newline more than `ss`. It is a segment of its own, unless there is a
-- line comment for it to end.
inductive TakesNewline : List Segment → List Segment → Prop
  | blank {ss : List Segment} : TakesNewline ss (ss ++ [⟨.blank, ['\n']⟩])
  | lineComment {ss : List Segment} {t : Text} :
      TakesNewline (ss ++ [⟨.lineComment, t⟩]) (ss ++ [⟨.lineComment, t ++ ['\n']⟩])

namespace TakesNewline

theorem cons : TakesNewline ss ss' → TakesNewline (s :: ss) (s :: ss')
  | blank => @blank (s :: _)
  | lineComment => @lineComment (s :: _) _

theorem concat_eq (h : TakesNewline ss ss') : concat ss' = concat ss ++ ['\n'] := by
  cases h <;> simp

theorem lexical_append (h : TakesNewline ss ss') :
    Placed.lexical before (ss' ++ bs) =
      Placed.lexical before ss ++ Placed.lexical (before ++ concat ss ++ ['\n']) bs := by
  cases h
  all_goals simp [Placed.lexical_append_cons, Placed.lexical_singleton, Rule.isLexical]

theorem leftOpen?_eq_none {g : Grammar} (h : TakesNewline ss ss')
    (ho : ∀ s ∈ ss, g.leftOpen? s = none) : ∀ s ∈ ss', g.leftOpen? s = none := by
  cases h
  all_goals
    intro s hs
    simp only [List.mem_append, List.mem_singleton] at ho hs
    cases hs
    case inl hs => simp [ho, hs]
    case inr hs => simp [hs, Grammar.leftOpen?]

end TakesNewline
end Segment

structure Lexeme.IsBelow (bytes lines : Nat) (l l' : Lexeme) : Prop where
  text_eq : l.text = l'.text
  offset_eq : l.start.offset = l'.start.offset + bytes
  line_eq : l.start.line.toNat = l'.start.line.toNat + lines
  column_eq : l.start.column = l'.start.column

structure Issue.IsBelow (lines : Nat) (i i' : Issue) : Prop where
  construct_eq : i.construct = i'.construct
  line_eq : i.line.toNat = i'.line.toNat + lines
  column_eq : i.column = i'.column

theorem Position.Rebases.of_newline {a : Text} {line column line' column' : UInt32}
    (h : (Position.after (a ++ ['\n'])).Rebases line column line' column')
    (hb : (a ++ ['\n']).length < 2 ^ 32 - 1) :
    line.toNat = line'.toNat + (a.count '\n' + 1) ∧ column = column' := by
  have ha := Position.isAfter_after hb
  constructor
  case left =>
    rw [← h.line_eq, ha.line_eq]
    simp
  case right =>
    have hc := h.column_eq
    rw [ha.column_eq] at hc
    apply UInt32.toNat_inj.mp
    simpa [lastLine_concat] using hc.symm

theorem Lexeme.IsRebased.isBelow {a : Text} {l l' : Lexeme}
    (h : Lexeme.IsRebased (.after (a ++ ['\n'])) l l') (hb : (a ++ ['\n']).length < 2 ^ 32 - 1) :
    Lexeme.IsBelow (size a + 1) (a.count '\n' + 1) l l' where
  text_eq := h.text_eq.symm
  offset_eq := by
    rw [← h.offset_eq, Position.offset_after, size_append]
    rfl
  line_eq := (h.coordinates.of_newline hb).1
  column_eq := (h.coordinates.of_newline hb).2

theorem Issue.IsRebased.isBelow {a : Text} {i i' : Issue}
    (h : Issue.IsRebased (.after (a ++ ['\n'])) i i') (hb : (a ++ ['\n']).length < 2 ^ 32 - 1) :
    Issue.IsBelow (a.count '\n' + 1) i i' where
  construct_eq := h.construct_eq.symm
  line_eq := (h.coordinates.of_newline hb).1
  column_eq := (h.coordinates.of_newline hb).2

namespace Grammar

variable {g : Grammar} {c : Char} {a b s t u : Text} {rule : Rule} {ss bs : List Segment}

-- Neither a symbol nor the opening marker of a comment or literal contains the character `c`.
structure OpensWithout (g : Grammar) (c : Char) : Prop where
  symbol : ∀ w ∈ g.symbols.words, c ∉ w
  lineComment : ∀ m ∈ g.lineComment, c ∉ m.text
  blockComment : ∀ d ∈ g.blockComment, c ∉ d.opening.text
  string : ∀ d ∈ g.string, c ∉ d.opening.text

-- What ends a segment stands in the segment: more text behind it does not matter.
structure Ends (g : Grammar) (s : Segment) : Prop where
  closed : g.leftOpen? s = none
  newline : s.rule = .lineComment → '\n' ∈ s.text

namespace OpensWithout

theorem applies_append_cons_iff (hg : g.OpensWithout c) (ht : t ≠ []) :
    g.Applies (t ++ c :: u) rule ↔ g.Applies t rule := by
  cases rule
  case blank => cases t <;> simp_all [Applies]
  case run => simp [Applies, ht]
  case lineComment => exact exists_isPrefix_append_cons_iff hg.lineComment
  case blockComment => exact exists_isPrefix_append_cons_iff hg.blockComment
  case stringLiteral => exact exists_isPrefix_append_cons_iff hg.string
  case symbol => exact exists_isPrefix_append_cons_iff hg.symbol

theorem prescribes_append_cons (hg : g.OpensWithout c) (h : g.Prescribes t rule s)
    (he : g.Ends ⟨rule, s⟩) : g.Prescribes (t ++ c :: u) rule s := by
  have hp : t <+: t ++ c :: u := List.prefix_append ..
  cases h
  case blank hb hs => exact .blank hb (hs.trans hp)
  case run hs => exact .run (hs.trans hp)
  case lineComment m hm hs ht =>
    have hn : ['\n'] <:+: s := (List.singleton_infix_iff ..).mpr (he.newline rfl)
    exact .lineComment hm (hs.trans hp) (ht.append hn)
  case blockComment d hd hs ht =>
    have hn : d.closing.text <:+: s := by
      have := he.closed
      simpa [leftOpen?_blockComment hd, find?_isSome_iff] using this
    exact .blockComment hd (hs.trans hp) (ht.append hn)
  case stringLiteral d body s hd hs ht =>
    have hn : d.closing.text <:+: s := by
      have := he.closed
      simpa [leftOpen?_stringLiteral hd, find?_isSome_iff] using this
    have hb : t ++ c :: u = d.opening.text ++ (body ++ c :: u) := by simp [hs]
    exact .stringLiteral hd hb (ht.append hn)
  case symbol hw hs hl =>
    refine .symbol hw (hs.trans hp) fun v hv hvt => hl v hv ?_
    exact (isPrefix_append_cons_iff (hg.symbol v hv)).mp hvt

end OpensWithout

theorem Cuts.append_cons {s : Segment} (h : g.Cuts t s) (hg : g.OpensWithout c) (he : g.Ends s) :
    g.Cuts (t ++ c :: u) s where
  prescribed := hg.prescribes_append_cons h.prescribed he
  first rule hr ha := by
    have ht : t ≠ [] := h.prescribed.isPrefix.ne_nil h.prescribed.ne_nil
    exact h.first rule hr ((hg.applies_append_cons_iff ht).mp ha)

theorem Cuts.append_newline (h : g.Cuts t ⟨.lineComment, s⟩) (hg : g.OpensWithout '\n')
    (hn : '\n' ∉ s) : s = t ∧ g.Cuts (t ++ '\n' :: u) ⟨.lineComment, s ++ ['\n']⟩ := by
  have hp := h.prescribed
  cases hp
  case lineComment m hm hp ht =>
    have he : s = t := ht.eq_of_not_infix fun hi => hn (hi.subset (by simp))
    subst he
    refine ⟨rfl, .lineComment hm (hp.trans (List.prefix_append ..)) (through_append_cons hn), ?_⟩
    intro rule hr ha
    exact h.first rule hr ((hg.applies_append_cons_iff (hp.ne_nil m.ne_nil)).mp ha)

theorem Segmentation.append_newline (ha : g.Segmentation a ss) (hg : g.OpensWithout '\n')
    (ho : ∀ s ∈ ss, g.leftOpen? s = none) (hb : g.Segmentation b bs) :
    ∃ ss', TakesNewline ss ss' ∧ g.Segmentation (a ++ '\n' :: b) (ss' ++ bs) := by
  induction ha
  case nil => exact ⟨_, .blank, .cons (.blank (by decide)) rfl hb⟩
  case cons s t u ss hc ht hr ih =>
    by_cases hl : s.rule = .lineComment → '\n' ∈ s.text
    case pos =>
      have he : g.Ends s := ⟨ho s (by simp), hl⟩
      have ⟨ss', hs, hs'⟩ := ih fun s hs => ho s (by simp [hs])
      exact ⟨s :: ss', hs.cons, .cons (hc.append_cons hg he) (by simp [ht]) hs'⟩
    case neg =>
      -- A line comment that the end of `a` ends is the last segment, and the newline ends it now.
      have ⟨hl, hn⟩ := Classical.not_imp.mp hl
      have ⟨rule, s⟩ := s
      cases hl
      have ⟨he, hc⟩ := hc.append_newline (u := b) hg hn
      have hu : u = [] := by simpa [he] using ht
      have hss : ss = [] := hr.eq_nil_iff.mp hu
      rw [hss]
      exact ⟨_, @TakesNewline.lineComment [] s, .cons hc (by simp [he]) hb⟩

theorem scan_append_newline (hg : g.OpensWithout '\n') (hb : (a ++ '\n' :: b).length < 2 ^ 32 - 1)
    (ha : (g.scan a).issues = []) :
    (∃ later, (g.scan (a ++ '\n' :: b)).lexemes = (g.scan a).lexemes ++ later ∧
      List.Forall₂ (Lexeme.IsBelow (size a + 1) (a.count '\n' + 1)) later (g.scan b).lexemes) ∧
    List.Forall₂ (Issue.IsBelow (a.count '\n' + 1)) (g.scan (a ++ '\n' :: b)).issues
      (g.scan b).issues := by
  have ⟨as, has⟩ := g.exists_segmentation a
  have ⟨bs, hbs⟩ := g.exists_segmentation b
  have hl : a.length + (b.length + 1) < 2 ^ 32 - 1 := by simpa using hb
  have hn : (a ++ ['\n']).length < 2 ^ 32 - 1 := by simp; omega
  have hr : (a ++ ['\n'] ++ b).length < 2 ^ 32 - 1 := by simpa using hb
  have ho : ∀ s ∈ as, g.leftOpen? s = none := by
    rw [has.issues_eq (by omega)] at ha
    exact Placed.filterMap_issue?_eq_nil_iff.mp ha
  have ⟨as', hs, h⟩ := has.append_newline hg ho hbs
  constructor
  case left =>
    refine ⟨(Placed.lexical (a ++ ['\n']) bs).map Placed.lexeme, ?_, ?_⟩
    · rw [h.lexemes_eq hb, hs.lexical_append, List.map_append, has.lexemes_eq (by omega),
        has.concat_eq, List.nil_append]
    · exact (hbs.lexemes_rebased hr).imp fun l l' hl => hl.isBelow hn
  case right =>
    rw [h.issues_of_append (hs.leftOpen?_eq_none ho) hb, hs.concat_eq, has.concat_eq]
    exact (hbs.issues_rebased hr).imp fun i i' hi => hi.isBelow hn

theorem scan_append_newline_cLike :
    let a := "=é // x".toList
    let b := "=y /* ü".toList
    cLike.OpensWithout '\n' ∧ (a ++ '\n' :: b).length < 2 ^ 32 - 1 ∧ (cLike.scan a).issues = [] ∧
    (∃ later, (cLike.scan (a ++ '\n' :: b)).lexemes = (cLike.scan a).lexemes ++ later ∧
      List.Forall₂ (Lexeme.IsBelow (size a + 1) (a.count '\n' + 1)) later
        (cLike.scan b).lexemes) ∧
    List.Forall₂ (Issue.IsBelow (a.count '\n' + 1)) (cLike.scan (a ++ '\n' :: b)).issues
      (cLike.scan b).issues := by
  have hg : cLike.OpensWithout '\n' := ⟨by decide, by decide, by decide, by decide⟩
  have ha : (cLike.scan "=é // x".toList).issues = [] := by decide +kernel
  exact ⟨hg, by decide, ha, scan_append_newline hg (by decide) ha⟩

end Grammar
end LexicalScan
