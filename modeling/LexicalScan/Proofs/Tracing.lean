import LexicalScan.Proofs.Issues
import LexicalScan.Proofs.Positions
import LexicalScan.Proofs.Reading
import LexicalScan.Trace

namespace LexicalScan

open Text

namespace Trace

structure Firing where
  rule : Rule
  start : Position
  deriving DecidableEq

def Event.firing? : Event → Option Firing
  | fired rule start => some ⟨rule, start⟩
  | _ => none

def Event.report? : Event → Option Issue
  | unterminated issue _ => some issue
  | _ => none

def Event.token? : Event → Option Token
  | read token => some token
  | _ => none

def firings (events : List Event) : List Firing :=
  events.filterMap Event.firing?

def reports (events : List Event) : List Issue :=
  events.filterMap Event.report?

def tokens (events : List Event) : List Token :=
  events.filterMap Event.token?

-- Whether a lexeme begins where a rule fires right after `previous`. A run that follows a run
-- continues it.
def beginsLexeme (previous : Option Rule) : Rule → Bool
  | .stringLiteral | .symbol => true
  | .run => previous != some .run
  | .blank | .lineComment | .blockComment => false

def lexemeStarts (previous : Option Rule) : List Firing → List Position
  | [] => []
  | f :: later =>
    (if beginsLexeme previous f.rule then [f.start] else []) ++ lexemeStarts f.rule later

def firing (s : Step) : Firing where
  rule := s.rule
  start := s.start

variable {g : Grammar} {source : Text} {s : Step}

theorem firings_ofStep : firings (ofStep s) = [firing s] := by
  unfold ofStep
  cases s.issue <;> rfl

theorem reports_ofStep : reports (ofStep s) = s.issue.toList := by
  unfold ofStep
  cases s.issue <;> rfl

theorem tokens_ofStep : tokens (ofStep s) = [] := by
  unfold ofStep
  cases s.issue <;> rfl

def scanning (g : Grammar) (source : Text) : List Event :=
  [.opened, .entered, .recorded (size source)] ++ (g.steps (.ofText source)).flatMap ofStep

def reading (g : Grammar) (source : Text) : List Event :=
  .exited :: (g.scan source).lexemes.map (.read ∘ g.token)

theorem trace_eq (g : Grammar) (source : Text) :
    g.trace source = scanning g source ++
      .completed (g.scan source).lexemes.length (g.scan source).issues.length ::
        reading g source := by
  simp [Grammar.trace, scanning, reading, Lexer.analyze, Lexer.rest]

theorem filterMap_scanning {α : Type} {f : Event → Option α}
    (h : [.opened, .entered, .recorded (size source)].filterMap f = []) :
    (scanning g source).filterMap f =
      (g.steps (.ofText source)).flatMap fun s => (ofStep s).filterMap f := by
  rw [scanning, List.filterMap_append, h, List.nil_append, List.filterMap_flatMap]

theorem firings_scanning : firings (scanning g source) = (g.steps (.ofText source)).map firing := by
  rw [firings, filterMap_scanning rfl, List.map_eq_flatMap]
  exact List.flatMap_congr fun _ _ => firings_ofStep

theorem reports_scanning : reports (scanning g source) = (g.scan source).issues := by
  have h : (g.scan source).issues = (g.steps (.ofText source)).filterMap Step.issue := rfl
  rw [reports, filterMap_scanning rfl, h, List.filterMap_eq_flatMap_toList]
  exact List.flatMap_congr fun _ _ => reports_ofStep

theorem tokens_scanning : tokens (scanning g source) = [] := by
  rw [tokens, filterMap_scanning rfl, List.flatMap_eq_nil_iff]
  exact fun _ _ => tokens_ofStep

theorem firings_reading : firings (reading g source) = [] := by
  simp [firings, reading, Event.firing?]

theorem reports_reading : reports (reading g source) = [] := by
  simp [reports, reading, Event.report?]

theorem tokens_reading : tokens (reading g source) = (g.scan source).lexemes.map g.token := by
  simp [tokens, reading, List.filterMap_cons, Event.token?, Function.comp_def]

theorem filterMap_trace {α : Type} {f : Event → Option α} (h : ∀ m n, f (.completed m n) = none) :
    (g.trace source).filterMap f =
      (scanning g source).filterMap f ++ (reading g source).filterMap f := by
  rw [trace_eq, List.filterMap_append, List.filterMap_cons_none (h ..)]

theorem firings_trace : firings (g.trace source) = (g.steps (.ofText source)).map firing := by
  have h : firings (g.trace source) = firings (scanning g source) ++ firings (reading g source) :=
    filterMap_trace fun _ _ => rfl
  rw [h, firings_scanning, firings_reading, List.append_nil]

theorem reports_trace : reports (g.trace source) = (g.scan source).issues := by
  have h : reports (g.trace source) = reports (scanning g source) ++ reports (reading g source) :=
    filterMap_trace fun _ _ => rfl
  rw [h, reports_scanning, reports_reading, List.append_nil]

theorem ne_completed_of_mem {e : Event} (h : e ∈ scanning g source ++ reading g source)
    (m n : Nat) : e ≠ .completed m n := by
  rintro rfl
  simp [scanning, reading, ofStep, List.mem_flatMap] at h

end Trace

open Trace

theorem Cursor.map_start_pending? (c : Cursor) :
    c.pending?.toList.map Lexeme.start = c.mark.toList.map Place.position := by
  cases h : c.mark <;> simp [pending?, h]

-- What is marked or begins at a step is what the step emits or leaves marked. The mark is set while
-- the last rule that fired is a run.
theorem Step.Takes.map_start_emitted {g : Grammar} {c : Cursor} {s : Step} {t : Text}
    {previous : Option Rule} (h : s.Takes g c t) (hp : previous = some .run ↔ c.mark.isSome) :
    s.emitted.map Lexeme.start ++ s.cursor.mark.toList.map Place.position =
      c.mark.toList.map Place.position ++
        (if beginsLexeme previous s.rule then [s.start] else []) := by
  rw [emitted, List.map_append, h.flushed_eq, h.own_eq, h.mark_eq, h.start_eq]
  by_cases hr : s.rule = .run
  case pos =>
    cases hc : c.mark
    case none =>
      have hn : previous ≠ some .run := by simp [hp, hc]
      simp [hr, beginsLexeme, hn]
    case some => simp [hr, beginsLexeme, hp, hc]
  case neg =>
    have hb : beginsLexeme previous s.rule ↔ s.rule = .stringLiteral ∨ s.rule = .symbol := by
      cases h : s.rule <;> simp_all [beginsLexeme]
    simp only [hr, hb, if_false, c.map_start_pending?]
    split <;> simp

namespace Grammar

variable {g : Grammar} {c : Cursor} {source : Text} {steps : List Step} {ss : List Segment}

theorem Run.map_start_lexemes (h : g.Run c steps ss) {previous : Option Rule}
    (hp : previous = some .run ↔ c.mark.isSome) :
    (Scan.ofSteps c steps).lexemes.map Lexeme.start =
      c.mark.toList.map Place.position ++ lexemeStarts previous (steps.map firing) := by
  induction h generalizing previous
  case nil c _ => simp [Scan.ofSteps, Scan.stop, lexemeStarts, c.map_start_pending?]
  case cons c s t steps ss ht _ _ ih =>
    have hm : some s.rule = some .run ↔ s.cursor.mark.isSome := by
      rw [ht.mark_eq]
      split <;> simp_all
    rw [Scan.lexemes_ofSteps_cons, List.map_append, ih hm, ← List.append_assoc,
      ht.map_start_emitted hp, List.append_assoc]
    rfl

theorem Segmentation.map_start_steps (h : g.Segmentation source ss)
    (hb : source.length < 2 ^ 32 - 1) :
    (g.steps (.ofText source)).map Step.start =
      (Placed.inRow [] ss).map fun x => .after x.before := by
  rw [← List.forall₂_eq_eq_eq, List.forall₂_map_left_iff, List.forall₂_map_right_iff]
  exact (h.steps_placed (Position.tracks_after hb)).imp fun _ _ hs => hs.start

theorem steps_pairwise (g : Grammar) (hb : source.length < 2 ^ 32 - 1) :
    (g.steps (.ofText source)).Pairwise fun s₁ s₂ => s₁.start.Precedes s₂.start := by
  have ⟨ss, h⟩ := g.exists_segmentation source
  rw [← List.pairwise_map, h.map_start_steps hb, List.pairwise_map]
  have ha {x : Placed} (hx : x ∈ Placed.inRow [] ss) :
      (Position.after x.before).IsAfter x.before := by
    have ⟨after, he, _⟩ := h.exists_of_mem_inRow hx
    simp only [he, List.length_append] at hb
    exact Position.isAfter_after (by omega)
  refine Placed.inRow_pairwise.imp_of_mem fun {x y} hx hy hxy => ?_
  have ⟨_, _, hc⟩ := h.exists_of_mem_inRow hx
  exact (ha hx).precedes (ha hy) hxy hc.prescribed.ne_nil

theorem head?_steps (g : Grammar) (h : source ≠ []) :
    ∃ s ∈ (g.steps (.ofText source)).head?, s.start = .start := by
  have hc : (Cursor.ofText source).rest ≠ [] := h
  have ⟨t, ht, _⟩ := g.step_takes hc
  exact ⟨_, by rw [steps_of_rest_ne_nil hc]; rfl, ht.start_eq⟩

theorem Meets.steps_eq {i : Issue} (h : g.Meets source c i) :
    ∃ earlier, g.steps (.ofText source) = earlier ++ [g.step c] := by
  have ⟨earlier, he, _⟩ := h.reached.exists_steps
  have hn : (g.step c).cursor.rest = [] := by simpa using h.takes.rest_eq
  exact ⟨earlier, by rw [he, steps_of_rest_ne_nil h.ahead, steps_of_rest_eq_nil hn]⟩

end Grammar

namespace Trace

variable {g : Grammar} {source : Text}

-- The events from which the course of an analysis can be told: the rules that fire, in order; the
-- lexemes, where they begin; the issue, right before the last rule; and what comes of it all.
structure Explains (g : Grammar) (source : Text) (events : List Event) : Prop where
  increasing : (firings events).Pairwise fun f₁ f₂ => f₁.start.Precedes f₂.start
  first : source ≠ [] → ∃ f ∈ (firings events).head?, f.start.line = 1 ∧ f.start.column = 1
  starts : (g.scan source).lexemes.map Lexeme.start = lexemeStarts none (firings events)
  atMostOne : (reports events).length ≤ 1
  issues : reports events = (g.scan source).issues
  report : ∀ issue start, .unterminated issue start ∈ events →
    issue.line = start.line ∧ issue.column = start.column ∧
    ∃ earlier later, firings later = [] ∧
      events = earlier ++ [.unterminated issue start, .fired issue.construct.rule start] ++ later
  outcome : ∃ before after,
    events = before ++
      .completed (g.scan source).lexemes.length (g.scan source).issues.length :: after ∧
    (∀ e ∈ before ++ after, ∀ m n, e ≠ .completed m n) ∧
    tokens before = [] ∧
    tokens after = (g.scan source).lexemes.map (fun l => ⟨g.classify l.text, l⟩) ∧
    ∃ last, (Lexer.analyze { grammar := g } source).Yields (tokens after) last

theorem exists_of_unterminated_mem_trace {i : Issue} {p : Position}
    (h : .unterminated i p ∈ g.trace source) :
    i.line = p.line ∧ i.column = p.column ∧
      ∃ earlier later, firings later = [] ∧
        g.trace source = earlier ++ [.unterminated i p, .fired i.construct.rule p] ++ later := by
  have hf : .unterminated i p ∈ (g.steps (.ofText source)).flatMap ofStep := by
    simpa [trace_eq, scanning, reading] using h
  have ⟨s, hs, he⟩ := List.mem_flatMap.mp hf
  obtain ⟨hi, rfl⟩ : s.issue = some i ∧ s.start = p := by simpa [ofStep] using he
  have ⟨c, hm, hc⟩ := Grammar.exists_meets_of_mem_steps hs hi
  have ⟨earlier, hl⟩ := hm.steps_eq
  have hp : s.start = c.position := hc ▸ hm.takes.start_eq
  have ho : ofStep s = [.unterminated i s.start, .fired i.construct.rule s.start] := by
    simp [ofStep, hi, hc ▸ hm.rule_eq]
  have ht : g.trace source =
      [.opened, .entered, .recorded (size source)] ++ earlier.flatMap ofStep ++
        [.unterminated i s.start, .fired i.construct.rule s.start] ++
        .completed (g.scan source).lexemes.length (g.scan source).issues.length ::
          reading g source := by
    rw [trace_eq, scanning, hl, ← hc, List.flatMap_append, List.flatMap_singleton, ho,
      List.append_assoc _ _ [_, _]]
  have ⟨_, hline, hcolumn⟩ := Issue.eq_unterminated_iff.mp (hp ▸ hm.eq)
  exact ⟨hline, hcolumn, _, _, (List.filterMap_cons_none rfl).trans firings_reading, ht⟩

theorem trace_explains (g : Grammar) (hb : source.length < 2 ^ 32 - 1) :
    Explains g source (g.trace source) where
  increasing := by
    rw [firings_trace, List.pairwise_map]
    exact g.steps_pairwise hb
  first h := by
    have ⟨s, hs, hp⟩ := g.head?_steps h
    refine ⟨firing s, ?_, congrArg Position.line hp, congrArg Position.column hp⟩
    rw [firings_trace, List.head?_map, Option.mem_def.mp hs, Option.map_some, Option.mem_some]
  starts := by
    have ⟨ss, h⟩ := g.exists_run (.ofText source)
    rw [firings_trace]
    exact h.map_start_lexemes (by simp [Cursor.ofText])
  atMostOne := by
    rw [reports_trace]
    exact g.length_issues_le source
  issues := reports_trace
  report _ _ h := exists_of_unterminated_mem_trace h
  outcome := by
    refine ⟨scanning g source, reading g source, trace_eq g source, fun _ => ne_completed_of_mem,
      tokens_scanning, tokens_reading, ?_⟩
    rw [tokens_reading]
    exact ⟨_, (Lexer.analyze { grammar := g } source).yields_drain⟩

-- Runs in a row, a run that a comment parts, and an open literal.
theorem trace_explains_cLike :
    let source := "ab/**/c=\"ü\nd".toList
    let events := Grammar.cLike.trace source
    firings events = [
      ⟨.run, ⟨0, 1, 1⟩⟩, ⟨.run, ⟨1, 1, 2⟩⟩, ⟨.blockComment, ⟨2, 1, 3⟩⟩, ⟨.run, ⟨6, 1, 7⟩⟩,
      ⟨.symbol, ⟨7, 1, 8⟩⟩, ⟨.stringLiteral, ⟨8, 1, 9⟩⟩
    ] ∧
    reports events = [⟨.stringLiteral, 1, 9⟩] ∧
    source.length < 2 ^ 32 - 1 ∧ Explains Grammar.cLike source events :=
  ⟨by decide +kernel, by decide +kernel, by decide, trace_explains Grammar.cLike (by decide)⟩

end Trace
end LexicalScan
