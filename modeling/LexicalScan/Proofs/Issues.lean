import LexicalScan.Proofs.Reach

namespace LexicalScan

open Text Segment

namespace Grammar

-- `l` begins like a string literal, reaches to the end of the source and is never closed.
def IsOpenLiteral (g : Grammar) (source : Text) (l : Lexeme) : Prop :=
  l.endOffset = size source ∧
    ∃ d ∈ g.string, ∃ body, l.text = d.opening.text ++ body ∧ ¬d.closing.text <:+: body

-- A scan comes to a block comment at `c` whose closing marker does not occur from there on.
structure ComesToOpenComment (g : Grammar) (source : Text) (c : Cursor) : Prop where
  reached : g.Reaches source c
  ahead : c.rest ≠ []
  fires : (g.step c).rule = .blockComment
  unclosed : ∃ d ∈ g.blockComment, ¬d.closing.text <:+: c.rest

-- The issues of a scan tell what is left open and where it begins.
structure ReportsExactly (g : Grammar) (source : Text) : Prop where
  atMostOne : (g.scan source).issues.length ≤ 1
  stringLiteral : ∀ i : Issue, i.construct = .stringLiteral →
    (i ∈ (g.scan source).issues ↔ ∃ l ∈ (g.scan source).lexemes.getLast?,
      g.IsOpenLiteral source l ∧ i.line = l.start.line ∧ i.column = l.start.column)
  blockComment : ∀ i : Issue, i.construct = .blockComment →
    (i ∈ (g.scan source).issues ↔ ∃ c, g.ComesToOpenComment source c ∧
      i.line = c.position.line ∧ i.column = c.position.column)
  position : ∀ c, g.ComesToOpenComment source c → ∃ before, before ++ c.rest = source ∧
    c.position.offset = size before ∧ (source.length < 2 ^ 32 - 1 → c.position.IsAfter before)
  lexemes : ∀ c, g.ComesToOpenComment source c →
    (∀ l ∈ (g.scan source).lexemes, l.endOffset ≤ c.position.offset) ∧
    ∀ l ∈ c.pending?, l ∈ (g.scan source).lexemes.getLast?
  closed : (g.scan source).issues = [] → ∀ c, g.Reaches source c → c.rest ≠ [] →
    ((g.step c).rule = .stringLiteral → ∃ d ∈ g.string, ∃ body,
      (g.step c).taken c.rest = d.opening.text ++ body ++ d.closing.text) ∧
    ((g.step c).rule = .blockComment → ∃ d ∈ g.blockComment,
      d.closing.text <:+ (g.step c).taken c.rest)

variable {g : Grammar} {source t : Text} {c : Cursor} {i : Issue}

theorem length_issues_le (g : Grammar) (source : Text) : (g.scan source).issues.length ≤ 1 := by
  have ⟨ss, h⟩ := g.exists_segmentation source
  have hl : (g.scan source).issues.length = (ss.filterMap g.leftOpen?).length := by
    rw [← h.map_construct_issues, List.length_map]
  rw [hl]
  cases List.eq_nil_or_concat ss
  case inl hs => simp [hs]
  case inr hs =>
    have ⟨ss, s, hs⟩ := hs
    rw [List.concat_eq_append] at hs
    subst hs
    have ho : ss.filterMap g.leftOpen? = [] :=
      List.filterMap_eq_nil_iff.mpr fun _ => h.leftOpen?_eq_none (by simp)
    rw [List.filterMap_append, ho, List.nil_append]
    exact List.length_filterMap_le ..

-- The step at `c` takes all that is left, and the issue `i` tells what it leaves open.
structure Meets (g : Grammar) (source : Text) (c : Cursor) (i : Issue) : Prop where
  reached : g.Reaches source c
  ahead : c.rest ≠ []
  takes : (g.step c).Takes g c c.rest
  cuts : g.Cuts c.rest ⟨(g.step c).rule, c.rest⟩
  leftOpen?_eq : g.leftOpen? ⟨(g.step c).rule, c.rest⟩ = some i.construct
  eq : i = .unterminated i.construct c.position

theorem Reaches.meets {construct : Construct} (h : g.Reaches source c) (hc : c.rest ≠ [])
    (ht : (g.step c).Takes g c t) (hs : g.Cuts c.rest ⟨(g.step c).rule, t⟩)
    (ho : g.leftOpen? ⟨(g.step c).rule, t⟩ = some construct) :
    g.Meets source c (.unterminated construct c.position) := by
  have ⟨he, _⟩ := hs.of_leftOpen?_eq_some ho
  exact ⟨h, hc, he ▸ ht, he ▸ hs, he ▸ ho, rfl⟩

theorem exists_meets_of_mem_steps {s : Step} (hs : s ∈ g.steps (.ofText source))
    (hi : s.issue = some i) : ∃ c, g.Meets source c i ∧ s = g.step c := by
  have ⟨c, hr, hc, he⟩ := Reaches.start.exists_of_mem_steps hs
  have ⟨t, ht, hcut⟩ := g.step_takes hc
  rw [he, ht.issue_eq] at hi
  have ⟨construct, ho, hi⟩ := Option.map_eq_some_iff.mp hi
  exact ⟨c, hi ▸ hr.meets hc ht hcut ho, he⟩

theorem mem_issues_iff : i ∈ (g.scan source).issues ↔ ∃ c, g.Meets source c i := by
  constructor
  case mp =>
    intro h
    have ⟨s, hs, hi⟩ := List.mem_filterMap.mp h
    have ⟨c, hm, _⟩ := exists_meets_of_mem_steps hs hi
    exact ⟨c, hm⟩
  case mpr =>
    rintro ⟨c, h⟩
    refine List.mem_filterMap.mpr ⟨_, h.reached.mem_steps h.ahead, ?_⟩
    rw [h.takes.issue_eq, h.leftOpen?_eq, Option.map_some, ← h.eq]

namespace Meets

variable (h : g.Meets source c i)
include h

theorem rule_eq : (g.step c).rule = i.construct.rule :=
  rule_of_leftOpen?_eq_some h.leftOpen?_eq

theorem rule_ne_run : (g.step c).rule ≠ .run := by
  rw [h.rule_eq]
  cases i.construct <;> simp [Construct.rule]

theorem lexemes_eq : ∃ earlier, (g.scan source).lexemes =
    earlier ++ (c.pending?.toList ++ (g.step c).own.toList) := by
  have ⟨earlier, he, _⟩ := h.reached.exists_steps
  have hn : (g.step c).cursor.rest = [] := by simpa using h.takes.rest_eq
  have hp : (g.step c).cursor.pending? = none := by
    simp [Cursor.pending?, h.takes.mark_eq, h.rule_ne_run]
  refine ⟨earlier.flatMap Step.emitted, ?_⟩
  simp [scan, Scan.ofSteps, Scan.stop, he, steps_of_rest_ne_nil h.ahead, steps_of_rest_eq_nil hn,
    hp, Step.emitted, h.takes.flushed_eq, h.rule_ne_run]

theorem literal (hi : i.construct = .stringLiteral) :
    ∃ l ∈ (g.scan source).lexemes.getLast?,
      g.IsOpenLiteral source l ∧ i = .unterminated .stringLiteral l.start := by
  have hr : (g.step c).rule = .stringLiteral := h.rule_eq.trans (hi ▸ rfl)
  have hl : (g.step c).own = some ⟨c.rest, c.position⟩ := by simp [h.takes.own_eq, hr]
  have ⟨earlier, he⟩ := h.lexemes_eq
  have ⟨before, hb, hp⟩ := h.reached.exists_before (Position.tracks_offset source)
  have hs := h.takes.prescribed
  have ho := h.leftOpen?_eq
  rw [hr] at hs ho
  have ⟨d, hd, body, ht, hc⟩ := hs.stringLiteral_cases
  refine ⟨⟨c.rest, c.position⟩, by simp [he, hl], ⟨?_, d, hd, body, ht, ?_⟩, hi ▸ h.eq⟩
  · simp [Lexeme.endOffset, hp, ← hb]
  · rcases hc with ⟨_, hc⟩ | ⟨hc, _⟩
    · simp [hc] at ho
    · exact hc

theorem comment (hi : i.construct = .blockComment) : g.ComesToOpenComment source c := by
  have hr : (g.step c).rule = .blockComment := h.rule_eq.trans (hi ▸ rfl)
  have hs := h.takes.prescribed
  have ho := h.leftOpen?_eq
  rw [hr] at hs ho
  have ⟨d, hd, hc⟩ := hs.blockComment_cases
  refine ⟨h.reached, h.ahead, hr, d, hd, ?_⟩
  rcases hc with ⟨_, hc⟩ | ⟨hc, _⟩
  · simp [hc] at ho
  · exact hc

end Meets

namespace ComesToOpenComment

variable (h : g.ComesToOpenComment source c)
include h

theorem meets : g.Meets source c (.unterminated .blockComment c.position) := by
  have ⟨t, ht, hs⟩ := g.step_takes h.ahead
  have hp := ht.prescribed
  rw [h.fires] at hp
  have ⟨d, hd, hn⟩ := h.unclosed
  have ⟨d', hd', hc⟩ := hp.blockComment_cases
  cases Option.mem_unique hd hd'
  rcases hc with ⟨hc, _⟩ | ⟨_, ho⟩
  · exact absurd (hc.isInfix.trans hp.isPrefix.isInfix) hn
  · exact h.reached.meets h.ahead ht hs (h.fires ▸ ho)

theorem position : ∃ before, before ++ c.rest = source ∧ c.position.offset = size before ∧
    (source.length < 2 ^ 32 - 1 → c.position.IsAfter before) := by
  have ⟨before, hb, hp⟩ := h.reached.exists_before (Position.tracks_offset source)
  refine ⟨before, hb, hp, fun hl => ?_⟩
  have ⟨before', hb', hp'⟩ := h.reached.exists_before (Position.tracks_after hl)
  cases List.append_cancel_right (hb.trans hb'.symm)
  have hs : before.length ≤ source.length := by simp [← hb]
  exact hp' ▸ Position.isAfter_after (hs.trans_lt hl)

theorem endOffset_le {l : Lexeme} (hl : l ∈ (g.scan source).lexemes) :
    l.endOffset ≤ c.position.offset := by
  have ht := Position.tracks_offset source
  have ⟨ss, rs, hs⟩ := h.reached.stands ht
  have hp := hs.holds.position ht ⟨_, hs.split⟩
  have hr := h.meets.rule_ne_run
  -- The comment is the last segment and no lexeme, so the lexemes are pieces of those before it.
  have hg := hs.segmentation (.cons h.meets.cuts (List.append_nil _).symm .nil)
  have hx := hg.lexemes_placed ht
  rw [Placed.lexical_append_cons hr, Placed.lexical_singleton hr] at hx
  simp only [h.fires, Rule.isLexical, Bool.false_eq_true, if_false, Placed.lexical_nil,
    List.append_nil] at hx
  obtain ⟨x, hx, hl⟩ := exists_of_mem_of_forall₂ hx hl
  have hm := size_le_of_isPrefix (Placed.isPrefix_of_mem_lexical hx)
  simp only [size_append, List.nil_append, concat_append] at hm hp
  rw [Lexeme.endOffset, hl.start, hl.text_eq, hp]
  exact hm

theorem getLast?_lexemes {l : Lexeme} (hl : l ∈ c.pending?) :
    l ∈ (g.scan source).lexemes.getLast? := by
  have ⟨earlier, he⟩ := h.meets.lexemes_eq
  have ho : (g.step c).own = none := by simp [h.meets.takes.own_eq, h.fires]
  simp [he, ho, Option.mem_def.mp hl]

end ComesToOpenComment

theorem IsOpenLiteral.mem_issues {l : Lexeme} (h : g.IsOpenLiteral source l)
    (hl : l ∈ (g.scan source).lexemes) :
    .unterminated .stringLiteral l.start ∈ (g.scan source).issues := by
  have ⟨_, d, hd, body, ht, hn⟩ := h
  have ⟨rule, issue, ha⟩ := mem_lexemes_iff.mp hl
  cases ha.eq_stringLiteral_of_isPrefix hd ⟨body, ht.symm⟩
  have ⟨d', hd', body', ht', hc⟩ := ha.stringLiteral_cases
  cases Option.mem_unique hd hd'
  cases List.append_cancel_left (ht.symm.trans ht')
  rcases hc with ⟨hc, _⟩ | ⟨_, hc⟩
  · exact absurd hc.isInfix hn
  · exact (hc ▸ ha).mem_issues

theorem Reaches.leftOpen?_eq_none (h : g.Reaches source c) (hc : c.rest ≠ [])
    (hn : (g.scan source).issues = []) :
    g.leftOpen? ⟨(g.step c).rule, (g.step c).taken c.rest⟩ = none := by
  have ⟨t, ht, hs⟩ := g.step_takes hc
  rw [ht.taken_eq]
  by_contra ho
  have ⟨construct, ho⟩ := Option.ne_none_iff_exists'.mp ho
  have hi := mem_issues_iff.mpr ⟨c, h.meets hc ht hs ho⟩
  simp [hn] at hi

theorem Reaches.taken_closed (h : g.Reaches source c) (hc : c.rest ≠ [])
    (hn : (g.scan source).issues = []) :
    ((g.step c).rule = .stringLiteral → ∃ d ∈ g.string, ∃ body,
      (g.step c).taken c.rest = d.opening.text ++ body ++ d.closing.text) ∧
    ((g.step c).rule = .blockComment → ∃ d ∈ g.blockComment,
      d.closing.text <:+ (g.step c).taken c.rest) := by
  have ho := h.leftOpen?_eq_none hc hn
  have ⟨t, ht, _⟩ := g.step_takes hc
  have hp := ht.prescribed
  rw [ht.taken_eq] at ho ⊢
  constructor
  case left =>
    intro hr
    rw [hr] at hp ho
    have ⟨d, hd, body, he, hb⟩ := hp.stringLiteral_cases
    rcases hb with ⟨⟨body, hb⟩, _⟩ | ⟨_, hb⟩
    · exact ⟨d, hd, body, by rw [he, ← hb, List.append_assoc]⟩
    · simp [hb] at ho
  case right =>
    intro hr
    rw [hr] at hp ho
    have ⟨d, hd, hb⟩ := hp.blockComment_cases
    rcases hb with ⟨hb, _⟩ | ⟨_, hb⟩
    · exact ⟨d, hd, hb⟩
    · simp [hb] at ho

theorem scan_reports (g : Grammar) (source : Text) : g.ReportsExactly source where
  atMostOne := g.length_issues_le source
  stringLiteral i hi := by
    constructor
    case mp =>
      intro h
      have ⟨c, h⟩ := mem_issues_iff.mp h
      have ⟨l, hl, ho, he⟩ := h.literal hi
      exact ⟨l, hl, ho, (Issue.eq_unterminated_iff.mp he).2⟩
    case mpr =>
      rintro ⟨l, hl, ho, hp⟩
      rw [Issue.eq_unterminated_iff.mpr ⟨hi, hp⟩]
      exact ho.mem_issues (List.mem_of_getLast? hl)
  blockComment i hi := by
    constructor
    case mp =>
      intro h
      have ⟨c, h⟩ := mem_issues_iff.mp h
      exact ⟨c, h.comment hi, (Issue.eq_unterminated_iff.mp h.eq).2⟩
    case mpr =>
      rintro ⟨c, h, hp⟩
      rw [Issue.eq_unterminated_iff.mpr ⟨hi, hp⟩]
      exact mem_issues_iff.mpr ⟨c, h.meets⟩
  position _ h := h.position
  lexemes _ h := ⟨fun _ => h.endOffset_le, fun _ => h.getLast?_lexemes⟩
  closed hn _ h hc := h.taken_closed hc hn

end Grammar
end LexicalScan
