import LexicalScan.Proofs.Pieces
import LexicalScan.Proofs.StepSegment
import LexicalScan.Scan

namespace LexicalScan

open Text Segment

theorem exists_of_mem_of_forall₂ {α β : Type} {R : α → β → Prop} {l₁ : List α} {l₂ : List β} {a : α}
    (h : List.Forall₂ R l₁ l₂) (ha : a ∈ l₁) : ∃ b ∈ l₂, R a b := by
  induction h
  case nil => contradiction
  case cons hr _ ih =>
    cases ha
    case head => exact ⟨_, .head _, hr⟩
    case tail ha =>
      have ⟨b, hb, hr⟩ := ih ha
      exact ⟨b, .tail _ hb, hr⟩

theorem filterMap_eq_of_forall₂ {α β γ : Type} {f₁ : α → Option γ} {f₂ : β → Option γ}
    {l₁ : List α} {l₂ : List β} (h : List.Forall₂ (fun a b => f₁ a = f₂ b) l₁ l₂) :
    l₁.filterMap f₁ = l₂.filterMap f₂ := by
  induction h
  case nil => rfl
  case cons hf _ ih => rw [List.filterMap_cons, List.filterMap_cons, hf, ih]

structure Lexeme.IsAt (R : Position → Text → Prop) (l : Lexeme) (x : Placed) : Prop where
  text_eq : l.text = x.segment.text
  start : R l.start x.before

-- A step takes a segment whose place is told by `R`, and meets the issue of what that leaves open.
structure Step.IsAt (g : Grammar) (R : Position → Text → Prop) (s : Step) (x : Placed) : Prop where
  rule_eq : s.rule = x.segment.rule
  start : R s.start x.before
  passes : s.start.Passes x.segment.text s.cursor.position
  issue_eq : s.issue = (g.leftOpen? x.segment).map (.unterminated · s.start)

-- The runs `rs` are pending at a cursor since a place after the text `before`. If there are none,
-- the cursor itself stands there.
inductive Cursor.Holds (R : Position → Text → Prop) (c : Cursor) (before : Text) :
    List Segment → Prop
  | nothing (mark_eq : c.mark = none) (here : R c.position before) : Holds R c before []
  | runs {m : Place} {rs : List Segment} (ne_nil : rs ≠ []) (runs : ∀ s ∈ rs, s.rule = .run)
      (pends : c.Pends m (concat rs)) (here : R m.position before) : Holds R c before rs

namespace Cursor.Holds

variable {R : Position → Text → Prop} {g : Grammar} {c : Cursor} {s : Step} {source before t : Text}
  {rs : List Segment}

theorem position (h : c.Holds R before rs) (ht : Position.Tracks R source)
    (hs : before ++ concat rs <+: source) : R c.position (before ++ concat rs) := by
  cases h
  case nothing hp => simpa using hp
  case runs hp hn hr hm => exact ht.passes hp hs hm.passes

theorem pending (h : c.Holds R before rs) :
    List.Forall₂ (Lexeme.IsAt R) c.pending?.toList (Placed.lexical before rs) := by
  cases h
  case nothing hm _ => simp [Cursor.pending?, hm]
  case runs hp hn hr hm =>
    rw [hm.pending?_eq, Placed.lexical_of_runs hr hn]
    exact .cons ⟨rfl, hp⟩ .nil

theorem run (h : c.Holds R before rs) (hs : s.Takes g c t) (hr : s.rule = .run) :
    s.cursor.Holds R before (rs ++ [⟨.run, t⟩]) := by
  have hk := hs.mark_eq
  rw [if_pos hr] at hk
  cases h
  case nothing hm hp =>
    rw [hm] at hk
    exact .runs (by simp) (by simp) ⟨hk, by simp [hs.rest_eq], by simpa using hs.passes⟩ hp
  case runs m hp hn hr hm =>
    rw [hm.mark_eq] at hk
    refine .runs (by simp) ?_ ⟨hk, ?_, ?_⟩ hp
    · simp only [List.forall_mem_append, List.forall_mem_singleton, and_true]
      exact hr
    · simp [hm.rest_eq, hs.rest_eq]
    · simpa using hm.passes.trans hs.passes

theorem flush (h : c.Holds R before rs) (ht : Position.Tracks R source)
    (hc : before ++ concat rs ++ c.rest = source) (hs : s.Takes g c t) (hr : s.rule ≠ .run) :
    s.cursor.Holds R (before ++ concat rs ++ t) [] := by
  have hk := hs.mark_eq
  rw [if_neg hr] at hk
  refine .nothing hk (ht.passes (h.position ht ?_) ?_ hs.passes)
  · exact ⟨_, hc⟩
  · exact ⟨s.cursor.rest, by simp [← hc, hs.rest_eq]⟩

end Cursor.Holds

namespace Grammar

inductive Run (g : Grammar) : Cursor → List Step → List Segment → Prop
  | nil {c : Cursor} (rest_eq : c.rest = []) : Run g c [] []
  | cons {c : Cursor} {s : Step} {t : Text} {steps : List Step} {ss : List Segment}
      (takes : s.Takes g c t) (cuts : g.Cuts c.rest ⟨s.rule, t⟩) (rest : Run g s.cursor steps ss) :
      Run g c (s :: steps) (⟨s.rule, t⟩ :: ss)

theorem exists_run (g : Grammar) (c : Cursor) : ∃ ss, g.Run c (g.steps c) ss := by
  by_cases hc : c.rest = []
  case pos => exact ⟨[], steps_of_rest_eq_nil hc ▸ .nil hc⟩
  case neg =>
    have ⟨t, ht, hs⟩ := g.step_takes hc
    have ⟨ss, hr⟩ := exists_run g (g.step c).cursor
    rw [steps_of_rest_ne_nil hc]
    exact ⟨_, .cons ht hs hr⟩
termination_by c.rest.length
decreasing_by exact g.step_shorter hc

namespace Run

variable {R : Position → Text → Prop} {g : Grammar} {c : Cursor} {s : Step} {source before t : Text}
  {steps : List Step} {ss rs : List Segment}

theorem segmentation (h : g.Run c steps ss) : g.Segmentation c.rest ss := by
  induction h
  case nil hr => exact hr ▸ .nil
  case cons ht hs _ ih => exact .cons hs ht.rest_eq ih

theorem own (hs : s.Takes g c t) (hr : s.rule ≠ .run) (hp : R c.position before) :
    List.Forall₂ (Lexeme.IsAt R) s.own.toList (Placed.lexical before [⟨s.rule, t⟩]) := by
  rw [Placed.lexical_singleton hr, hs.own_eq]
  simp only [Rule.isLexical_iff hr]
  split
  case isTrue => exact .cons ⟨rfl, hp⟩ .nil
  case isFalse => exact .nil

theorem lexemes_placed (h : g.Run c steps ss) (ht : Position.Tracks R source)
    (hh : c.Holds R before rs) (hc : before ++ concat rs ++ c.rest = source) :
    List.Forall₂ (Lexeme.IsAt R) (Scan.ofSteps c steps).lexemes
      (Placed.lexical before (rs ++ ss)) := by
  induction h generalizing before rs
  case nil => simpa [Scan.ofSteps, Scan.stop] using hh.pending
  case cons c s t steps ss hs _ _ ih =>
    rw [Scan.lexemes_ofSteps_cons]
    -- A run is put off to the rows `rs`; any other segment parts the rows before and after it.
    by_cases hr : s.rule = .run
    case pos =>
      have := ih (hh.run hs hr) (by simpa [hs.rest_eq] using hc)
      simpa [Step.emitted, hs.flushed_eq, hs.own_eq, hr] using this
    case neg =>
      rw [Placed.lexical_append_cons hr, Step.emitted, hs.flushed_eq, if_neg hr]
      apply List.rel_append (List.rel_append hh.pending _)
      case _ => exact ih (hh.flush ht hc hs hr) (by simpa [hs.rest_eq] using hc)
      case _ => exact own hs hr (hh.position ht ⟨_, hc⟩)

theorem steps_placed (h : g.Run c steps ss) (ht : Position.Tracks R source)
    (hp : R c.position before) (hc : before ++ c.rest = source) :
    List.Forall₂ (Step.IsAt g R) steps (Placed.inRow before ss) := by
  induction h generalizing before
  case nil => exact .nil
  case cons c s t steps ss hs _ _ ih =>
    have hr : before ++ t ++ s.cursor.rest = source := by simpa [hs.rest_eq] using hc
    refine .cons ⟨rfl, hs.start_eq ▸ hp, hs.start_eq ▸ hs.passes, hs.start_eq ▸ hs.issue_eq⟩ ?_
    exact ih (ht.passes hp ⟨_, hr⟩ hs.passes) hr

end Run

variable {R : Position → Text → Prop} {g : Grammar} {source : Text} {ss : List Segment}

theorem exists_segmentation (g : Grammar) (source : Text) : ∃ ss, g.Segmentation source ss :=
  have ⟨ss, h⟩ := g.exists_run (.ofText source)
  ⟨ss, h.segmentation⟩

theorem Segmentation.run (h : g.Segmentation source ss) :
    g.Run (.ofText source) (g.steps (.ofText source)) ss := by
  have ⟨_, hr⟩ := g.exists_run (.ofText source)
  exact h.unique hr.segmentation ▸ hr

theorem Segmentation.steps_placed (h : g.Segmentation source ss) (ht : Position.Tracks R source) :
    List.Forall₂ (Step.IsAt g R) (g.steps (.ofText source)) (Placed.inRow [] ss) :=
  h.run.steps_placed ht ht.start rfl

theorem Segmentation.lexemes_placed (h : g.Segmentation source ss) (ht : Position.Tracks R source) :
    List.Forall₂ (Lexeme.IsAt R) (g.scan source).lexemes (Placed.lexical [] ss) :=
  h.run.lexemes_placed ht (.nothing rfl ht.start) rfl

theorem scan_lexemes_eq (g : Grammar) (source : Text) :
    ∃ segments : List Segment,
      g.Segmentation source segments ∧
      (∀ other, g.Segmentation source other → other = segments) ∧
      concat segments = source ∧
      (∀ s ∈ segments, s.text ≠ []) ∧
      (g.scan source).lexemes.map (fun l => (l.start.offset, l.text)) =
        (Placed.lexical [] segments).map fun x => (size x.before, x.segment.text) := by
  have ⟨ss, h⟩ := g.exists_segmentation source
  refine ⟨ss, h, fun _ ho => ho.unique h, h.concat_eq, fun _ => h.ne_nil, ?_⟩
  rw [← List.forall₂_eq_eq_eq, List.forall₂_map_left_iff, List.forall₂_map_right_iff]
  exact (h.lexemes_placed (Position.tracks_offset source)).imp fun l x hl => by
    rw [hl.start, hl.text_eq]

end Grammar

namespace Placed

-- The lexeme that a piece is while the counters of lines and columns do not run over.
def lexeme (x : Placed) : Lexeme where
  text := x.segment.text
  start := .after x.before

@[simp]
theorem lexeme_text {x : Placed} : x.lexeme.text = x.segment.text :=
  rfl

@[simp]
theorem lexeme_start {x : Placed} : x.lexeme.start = .after x.before :=
  rfl

def issue? (g : Grammar) (x : Placed) : Option Issue :=
  (g.leftOpen? x.segment).map (.unterminated · (.after x.before))

theorem filterMap_issue?_eq_nil_iff {g : Grammar} {before : Text} {ss : List Segment} :
    (inRow before ss).filterMap (issue? g) = [] ↔ ∀ s ∈ ss, g.leftOpen? s = none := by
  have h := List.forall_mem_map (f := segment) (l := inRow before ss)
    (P := fun s => g.leftOpen? s = none)
  rw [map_segment_inRow] at h
  simp [h, issue?]

end Placed

namespace Grammar.Segmentation

variable {g : Grammar} {source : Text} {ss : List Segment}

theorem lexemes_eq (h : g.Segmentation source ss) (hb : source.length < 2 ^ 32 - 1) :
    (g.scan source).lexemes = (Placed.lexical [] ss).map Placed.lexeme := by
  rw [← List.forall₂_eq_eq_eq, List.forall₂_map_right_iff]
  exact (h.lexemes_placed (Position.tracks_after hb)).imp fun l x hl => by
    simp [Placed.lexeme, ← hl.text_eq, ← hl.start]

theorem issues_eq (h : g.Segmentation source ss) (hb : source.length < 2 ^ 32 - 1) :
    (g.scan source).issues = (Placed.inRow [] ss).filterMap (Placed.issue? g) := by
  apply filterMap_eq_of_forall₂
  exact (h.steps_placed (Position.tracks_after hb)).imp fun s x hs => by
    simp [Placed.issue?, hs.issue_eq, hs.start]

theorem map_text_lexemes (h : g.Segmentation source ss) :
    (g.scan source).lexemes.map Lexeme.text = (lexicalPieces ss).map Segment.text := by
  rw [← @Placed.map_segment_lexical [] ss, List.map_map, ← List.forall₂_eq_eq_eq,
    List.forall₂_map_left_iff, List.forall₂_map_right_iff]
  exact (h.lexemes_placed (Position.tracks_offset source)).imp fun l x hl => hl.text_eq

theorem map_construct_issues (h : g.Segmentation source ss) :
    (g.scan source).issues.map Issue.construct = ss.filterMap g.leftOpen? := by
  have hl : ss.filterMap g.leftOpen? =
      (Placed.inRow [] ss).filterMap fun x => g.leftOpen? x.segment := by
    rw [← Function.comp_def, ← List.filterMap_map, Placed.map_segment_inRow]
  rw [hl, scan, Scan.ofSteps, List.map_filterMap]
  apply filterMap_eq_of_forall₂
  exact (h.steps_placed (Position.tracks_offset source)).imp fun s x hs => by
    simp [hs.issue_eq, Function.comp_def, Issue.unterminated]

end Grammar.Segmentation
end LexicalScan
