import LexicalScan.Proofs.Coverage

namespace LexicalScan

open Text Segment

namespace Grammar

inductive Reaches (g : Grammar) (source : Text) : Cursor → Prop
  | start : Reaches g source (.ofText source)
  | step {c : Cursor} (reached : Reaches g source c) (ahead : c.rest ≠ []) :
      Reaches g source (g.step c).cursor

-- A scan stands at `c` behind the segments `ss` and the runs `rs`, which are pending.
structure Stands (g : Grammar) (R : Position → Text → Prop) (source : Text) (c : Cursor)
    (ss rs : List Segment) : Prop where
  holds : c.Holds R (concat ss) rs
  split : concat ss ++ concat rs ++ c.rest = source
  segmentation : ∀ {later : List Segment}, g.Segmentation c.rest later →
    g.Segmentation source (ss ++ rs ++ later)

variable {R : Position → Text → Prop} {g : Grammar} {source t : Text} {c : Cursor} {s : Step}
  {ss rs : List Segment}

theorem Stands.step (h : g.Stands R source c ss rs) (hp : Position.Tracks R source)
    (hc : c.rest ≠ []) : ∃ ss' rs', g.Stands R source (g.step c).cursor ss' rs' := by
  have ⟨t, ht, hs⟩ := g.step_takes hc
  by_cases hr : (g.step c).rule = .run
  case pos =>
    refine ⟨ss, rs ++ [⟨.run, t⟩], h.holds.run ht hr, ?_, fun hl => ?_⟩
    · simp [← h.split, ht.rest_eq]
    · have := h.segmentation (.cons hs ht.rest_eq hl)
      simpa [hr] using this
  case neg =>
    refine ⟨ss ++ rs ++ [⟨(g.step c).rule, t⟩], [], ?_, ?_, fun hl => ?_⟩
    · simpa using h.holds.flush hp h.split ht hr
    · simp [← h.split, ht.rest_eq]
    · have := h.segmentation (.cons hs ht.rest_eq hl)
      simpa using this

namespace Reaches

theorem stands (h : g.Reaches source c) (hp : Position.Tracks R source) :
    ∃ ss rs, g.Stands R source c ss rs := by
  induction h
  case start => exact ⟨[], [], .nothing rfl hp.start, rfl, id⟩
  case step ahead ih =>
    have ⟨ss, rs, h⟩ := ih
    exact h.step hp ahead

theorem exists_before (h : g.Reaches source c) (hp : Position.Tracks R source) :
    ∃ before, before ++ c.rest = source ∧ R c.position before := by
  have ⟨ss, rs, hs⟩ := h.stands hp
  exact ⟨_, hs.split, hs.holds.position hp ⟨_, hs.split⟩⟩

theorem exists_steps (h : g.Reaches source c) :
    ∃ earlier, g.steps (.ofText source) = earlier ++ g.steps c ∧
      Scan.stop (.ofText source) earlier = c := by
  induction h
  case start => exact ⟨[], rfl, rfl⟩
  case step c _ ahead ih =>
    have ⟨earlier, he, _⟩ := ih
    refine ⟨earlier ++ [g.step c], ?_, by simp [Scan.stop]⟩
    simp [he, steps_of_rest_ne_nil ahead]

theorem mem_steps (h : g.Reaches source c) (hc : c.rest ≠ []) :
    g.step c ∈ g.steps (.ofText source) := by
  have ⟨earlier, he, _⟩ := h.exists_steps
  simp [he, steps_of_rest_ne_nil hc]

theorem exists_of_mem_steps {c : Cursor} (h : g.Reaches source c) (hs : s ∈ g.steps c) :
    ∃ d, g.Reaches source d ∧ d.rest ≠ [] ∧ s = g.step d := by
  by_cases hc : c.rest = []
  case pos => simp [steps_of_rest_eq_nil hc] at hs
  case neg =>
    rw [steps_of_rest_ne_nil hc] at hs
    cases hs
    case head => exact ⟨c, h, hc, rfl⟩
    case tail hs => exact exists_of_mem_steps (h.step hc) hs
termination_by c.rest.length
decreasing_by exact g.step_shorter hc

theorem stop {c : Cursor} (h : g.Reaches source c) :
    g.Reaches source (Scan.stop c (g.steps c)) ∧ (Scan.stop c (g.steps c)).rest = [] := by
  by_cases hc : c.rest = []
  case pos =>
    rw [steps_of_rest_eq_nil hc]
    exact ⟨h, hc⟩
  case neg =>
    rw [steps_of_rest_ne_nil hc]
    exact stop (h.step hc)
termination_by c.rest.length
decreasing_by exact g.step_shorter hc

theorem cuts_of_pending? {l : Lexeme} (h : g.Reaches source c) (hl : c.pending? = some l) :
    ∃ rest s, g.Cuts rest s ∧ s.rule = .run ∧ l.text <+: rest := by
  have ⟨ss, rs, hs⟩ := h.stands (Position.tracks_offset source)
  have ⟨later, hl'⟩ := g.exists_segmentation c.rest
  have hh := hs.holds
  cases hh
  case nothing hm _ => simp [Cursor.pending?, hm] at hl
  case runs m _ hn hr hm =>
    obtain ⟨r, rs, he⟩ := List.exists_cons_of_ne_nil hn
    have hc : g.Segmentation (concat (r :: rs ++ later)) (r :: rs ++ later) := by
      have := hs.segmentation hl'
      rw [List.append_assoc, he] at this
      exact this.of_append
    rw [hm.pending?_eq] at hl
    refine ⟨_, r, hc.cuts, hr r (by simp [he]), ?_⟩
    simp [← Option.some.inj hl, he]

end Reaches

-- The lexeme `l` arises by a rule: as the lexeme of a step, or as a run that a step or the end of
-- the source ends. The issue is that of the step whose lexeme it is.
inductive Arises (g : Grammar) (source : Text) (l : Lexeme) : Rule → Option Issue → Prop
  | own {c : Cursor} (reached : g.Reaches source c) (ahead : c.rest ≠ [])
      (own_eq : (g.step c).own = some l) : Arises g source l (g.step c).rule (g.step c).issue
  | flushed {c : Cursor} (reached : g.Reaches source c) (ahead : c.rest ≠ [])
      (flushed_eq : (g.step c).flushed = some l) : Arises g source l .run none
  | pending {c : Cursor} (reached : g.Reaches source c) (atEnd : c.rest = [])
      (pending_eq : c.pending? = some l) : Arises g source l .run none

namespace Arises

variable {l : Lexeme} {rule : Rule} {issue : Option Issue}

theorem exists_step (h : g.Arises source l rule issue) (hr : rule ≠ .run) :
    ∃ c, g.Reaches source c ∧ c.rest ≠ [] ∧ (g.step c).own = some l ∧
      (g.step c).rule = rule ∧ (g.step c).issue = issue := by
  cases h
  case own c hc ha hl => exact ⟨c, hc, ha, hl, rfl, rfl⟩
  case flushed => contradiction
  case pending => contradiction

theorem mem_issues {i : Issue} (h : g.Arises source l rule (some i)) :
    i ∈ (g.scan source).issues := by
  generalize hi : some i = issue at h
  cases h
  case own hc ha _ => exact List.mem_filterMap.mpr ⟨_, hc.mem_steps ha, hi.symm⟩
  case flushed => contradiction
  case pending => contradiction

theorem cuts (h : g.Arises source l rule issue) :
    rule.isLexical ∧ ∃ rest s, g.Cuts rest s ∧ s.rule = rule ∧ l.text <+: rest := by
  cases h
  case own c _ ha hl =>
    have ⟨t, ht, hs⟩ := g.step_takes ha
    rw [ht.own_eq] at hl
    split at hl
    case isFalse => contradiction
    case isTrue hr =>
      refine ⟨by rcases hr with hr | hr <;> rw [hr] <;> rfl, c.rest, _, hs, rfl, ?_⟩
      exact Option.some.inj hl ▸ hs.prescribed.isPrefix
  case flushed c hc ha hl =>
    have ⟨t, ht, _⟩ := g.step_takes ha
    rw [ht.flushed_eq] at hl
    split at hl
    case isTrue => contradiction
    case isFalse => exact ⟨rfl, hc.cuts_of_pending? hl⟩
  case pending hc _ hl => exact ⟨rfl, hc.cuts_of_pending? hl⟩

theorem eq_stringLiteral_of_isPrefix {d : Delimiters} (h : g.Arises source l rule issue)
    (hd : d ∈ g.string) (hp : d.opening.text <+: l.text) : rule = .stringLiteral := by
  have ⟨hl, rest, s, hs, hr, ht⟩ := h.cuts
  have hf : ¬Rule.stringLiteral.rank < rule.rank := fun hf =>
    hs.first .stringLiteral (hr ▸ hf) ⟨d, hd, hp.trans ht⟩
  cases rule <;> simp_all [Rule.isLexical, Rule.rank]

theorem stringLiteral_cases (h : g.Arises source l .stringLiteral issue) :
    ∃ d ∈ g.string, ∃ body, l.text = d.opening.text ++ body ∧
      (d.closing.text <:+ body ∧ issue = none ∨
        ¬d.closing.text <:+: body ∧ issue = some (.unterminated .stringLiteral l.start)) := by
  have ⟨c, _, hc, hl, hr, hi⟩ := h.exists_step (by simp)
  have ⟨t, ht, _⟩ := g.step_takes hc
  have hp := ht.prescribed
  have ho := ht.own_eq
  have he := ht.issue_eq
  rw [hr] at hp ho he
  rw [hl, if_pos (.inl rfl), Option.some.injEq] at ho
  rw [hi] at he
  have ⟨d, hd, body, hb, hcases⟩ := hp.stringLiteral_cases
  refine ⟨d, hd, body, by rw [ho, hb], ?_⟩
  cases hcases
  case inl h => exact .inl ⟨h.1, by rw [he, h.2, Option.map_none]⟩
  case inr h => exact .inr ⟨h.1, by rw [he, h.2, Option.map_some, ho]⟩

end Arises

theorem mem_lexemes_iff {l : Lexeme} :
    l ∈ (g.scan source).lexemes ↔ ∃ rule issue, g.Arises source l rule issue := by
  simp only [scan, Scan.ofSteps, Step.emitted, List.mem_append, List.mem_flatMap,
    Option.mem_toList]
  constructor
  case mp =>
    rintro (⟨s, hs, hl⟩ | hl)
    case inl =>
      obtain ⟨c, hc, ha, he⟩ := Reaches.start.exists_of_mem_steps hs
      subst he
      cases hl
      case inl hl => exact ⟨_, _, .flushed hc ha hl⟩
      case inr hl => exact ⟨_, _, .own hc ha hl⟩
    case inr =>
      obtain ⟨hc, ha⟩ := (@Reaches.start g source).stop
      exact ⟨_, _, .pending hc ha hl⟩
  case mpr =>
    rintro ⟨_, _, h⟩
    cases h
    case own c hc ha hl => exact .inl ⟨_, hc.mem_steps ha, .inr hl⟩
    case flushed c hc ha hl => exact .inl ⟨_, hc.mem_steps ha, .inl hl⟩
    case pending c hc ha hl =>
      obtain ⟨earlier, he, hs⟩ := hc.exists_steps
      rw [steps_of_rest_eq_nil ha, List.append_nil] at he
      exact .inr (he ▸ hs ▸ hl)

end Grammar
end LexicalScan
