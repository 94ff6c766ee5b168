import LexicalScan.Proofs.Issues
import LexicalScan.Proofs.Walking

namespace LexicalScan

open Text Segment

namespace Grammar

variable {g : Grammar} {source t : Text} {c : Cursor} {m : Place} {s : Step} {l : Lexeme}
  {earlier later : List Step}

theorem Reaches.atEnd_iff (h : g.Reaches source c) : c.atEnd ↔ size source ≤ c.position.offset := by
  have ⟨before, hb, hp⟩ := h.exists_before (Position.tracks_offset source)
  have hs : size source = size before + size c.rest := by rw [← hb, size_append]
  rw [Cursor.atEnd, List.isEmpty_iff, ← size_eq_zero_iff]
  omega

theorem Reaches.slice?_pending (h : g.Reaches source c) (hm : m ∈ c.mark) :
    ∃ t, slice? source m.position.offset c.position.offset = some t ∧
      c.pending? = some ⟨t, m.position⟩ := by
  have ⟨ss, rs, hs⟩ := h.stands (Position.tracks_offset source)
  have hh := hs.holds
  cases hh
  case nothing hn _ => simp [hn] at hm
  case runs m' ho _ _ hp =>
    cases Option.mem_unique hm hp.mark_eq
    refine ⟨concat rs, slice?_eq_some_iff.mpr ⟨concat ss, c.rest, hs.split.symm, ho, ?_⟩,
      hp.pending?_eq⟩
    rw [hp.passes.offset_eq, ho, size_append]

theorem Reaches.mem_pending?_iff (h : g.Reaches source c) :
    l ∈ c.pending? ↔ ∃ m ∈ c.mark, l.start = m.position ∧
      slice? source m.position.offset c.position.offset = some l.text := by
  constructor
  case mp =>
    intro hl
    have ⟨m, hm, _⟩ := Option.map_eq_some_iff.mp hl
    have ⟨t, hs, hp⟩ := h.slice?_pending hm
    cases Option.mem_unique hl hp
    exact ⟨m, hm, rfl, hs⟩
  case mpr =>
    rintro ⟨m, hm, hl, hs⟩
    have ⟨t, ht, hp⟩ := h.slice?_pending hm
    cases Option.mem_unique hs ht
    rw [hp, Option.mem_some, ← hl]

def lastRuns (steps : List Step) : List Step :=
  steps.rtakeWhile (·.rule = .run)

-- The mark of `c`, which the steps lead to, is where the first of the last runs began. There is
-- none if the last step is no run.
def MarksLastRuns (steps : List Step) (c : Cursor) : Prop :=
  c.mark.map Place.position = (lastRuns steps).head?.map Step.start

theorem MarksLastRuns.step (h : MarksLastRuns earlier c) (ht : s.Takes g c t) :
    MarksLastRuns (earlier ++ [s]) s.cursor := by
  unfold MarksLastRuns lastRuns at h ⊢
  rw [ht.mark_eq]
  by_cases hr : s.rule = .run
  case neg =>
    rw [List.rtakeWhile_concat_neg _ _ _ (by simpa using hr), if_neg hr]
    rfl
  case pos =>
    rw [List.rtakeWhile_concat_pos _ _ _ (by simpa using hr), if_pos hr]
    -- A run keeps the mark of the runs before it, and is marked itself if there are none.
    cases hm : c.mark
    case none =>
      have hn : earlier.rtakeWhile (·.rule = .run) = [] := by simpa [hm] using h.symm
      simp [hn, ht.start_eq]
    case some =>
      have hn : earlier.rtakeWhile (·.rule = .run) ≠ [] := fun hn => by simp [hm, hn] at h
      simpa [hm, List.head?_append_of_ne_nil _ hn] using h

theorem steps_stop (h : g.steps c = earlier ++ later) : g.steps (Scan.stop c earlier) = later := by
  induction earlier generalizing c
  case nil => exact h
  case cons s earlier ih =>
    have hc : c.rest ≠ [] := fun hc => by simp [steps_of_rest_eq_nil hc] at h
    rw [steps_of_rest_ne_nil hc, List.cons_append] at h
    have ⟨hs, hl⟩ := List.cons.inj h
    exact ih (hs ▸ hl)

theorem marksLastRuns_stop (h : g.steps (.ofText source) = earlier ++ later) :
    MarksLastRuns earlier (Scan.stop (.ofText source) earlier) := by
  induction earlier using List.reverseRecOn generalizing later
  case nil => rfl
  case append_singleton earlier s ih =>
    rw [List.append_assoc] at h
    have hs := steps_stop h
    have hc : (Scan.stop (.ofText source) earlier).rest ≠ [] := fun hc => by
      simp [steps_of_rest_eq_nil hc] at hs
    rw [steps_of_rest_ne_nil hc, List.singleton_append] at hs
    have ⟨t, ht, _⟩ := g.step_takes hc
    have hm := (ih h).step ht
    rw [(List.cons.inj hs).1] at hm
    simpa [Scan.stop] using hm

-- The step from `c` leads further on in the source. Unless it is a run, it emits the run that is
-- pending and then a lexeme of its own. If it meets an issue, it has come to the end.
structure StepsOn (g : Grammar) (source : Text) (c : Cursor) : Prop where
  rest : slice? source (g.step c).cursor.position.offset (size source) = some (g.step c).cursor.rest
  forward : c.position.offset < (g.step c).cursor.position.offset
  inRange : (g.step c).cursor.position.offset ≤ size source
  emitted : (g.step c).emitted =
    if (g.step c).rule = .run then [] else c.pending?.toList ++ (g.step c).own.toList
  atMostTwo : (g.step c).emitted.length ≤ 2
  pending : ∀ l, l ∈ c.pending? ↔ ∃ m ∈ c.mark, l.start = m.position ∧
    slice? source m.position.offset c.position.offset = some l.text
  own : ∀ l ∈ (g.step c).own, l.start = c.position ∧
    slice? source c.position.offset (g.step c).cursor.position.offset = some l.text
  marked : (g.step c).cursor.mark.isSome ↔ (g.step c).rule = .run
  mark : ∃ earlier, g.steps (.ofText source) = earlier ++ g.steps c ∧
    Scan.stop (.ofText source) earlier = c ∧
    MarksLastRuns (earlier ++ [g.step c]) (g.step c).cursor
  issue : (g.step c).issue ≠ none → (g.step c).cursor.atEnd

theorem Reaches.exists_marksLastRuns (h : g.Reaches source c) (hc : c.rest ≠ []) :
    ∃ earlier, g.steps (.ofText source) = earlier ++ g.steps c ∧
      Scan.stop (.ofText source) earlier = c ∧
      MarksLastRuns (earlier ++ [g.step c]) (g.step c).cursor := by
  have ⟨earlier, he, hs⟩ := h.exists_steps
  have ⟨t, ht, _⟩ := g.step_takes hc
  have hm := marksLastRuns_stop he
  rw [hs] at hm
  exact ⟨earlier, he, hs, hm.step ht⟩

theorem Reaches.atEnd_of_issue_ne_none (h : g.Reaches source c) (hc : c.rest ≠ [])
    (hi : (g.step c).issue ≠ none) : (g.step c).cursor.atEnd := by
  have ⟨t, ht, hs⟩ := g.step_takes hc
  rw [ht.issue_eq, ne_eq, Option.map_eq_none_iff] at hi
  have ⟨construct, hl⟩ := Option.ne_none_iff_exists'.mp hi
  have hn : (g.step c).cursor.rest = [] := by simpa using (h.meets hc ht hs hl).takes.rest_eq
  simp [Cursor.atEnd, hn]

theorem Reaches.stepsOn (h : g.Reaches source c) (hc : c.rest ≠ []) : g.StepsOn source c := by
  have ⟨before, hb, hp⟩ := h.exists_before (Position.tracks_offset source)
  have ⟨t, ht, hs⟩ := g.step_takes hc
  have ho : (g.step c).cursor.position.offset = size (before ++ t) := by
    rw [ht.passes.offset_eq, hp, size_append]
  have hr : source = before ++ t ++ (g.step c).cursor.rest := by
    rw [← hb, ht.rest_eq, List.append_assoc]
  constructor
  case rest => exact slice?_eq_some_iff.mpr ⟨before ++ t, [], by simpa using hr, ho, by rw [← hr]⟩
  case forward =>
    have hz : size t ≠ 0 := mt size_eq_zero_iff.mp hs.prescribed.ne_nil
    rw [ho, hp, size_append]
    omega
  case inRange =>
    rw [ho, hr]
    exact size_le_of_isPrefix (List.prefix_append ..)
  case emitted =>
    rw [Step.emitted, ht.flushed_eq, ht.own_eq]
    split
    case isTrue hr => simp [hr]
    case isFalse => rfl
  case atMostTwo =>
    rw [Step.emitted, List.length_append]
    exact Nat.add_le_add Option.length_toList_le Option.length_toList_le
  case pending => exact fun l => h.mem_pending?_iff
  case own =>
    intro l hl
    rw [ht.own_eq] at hl
    split at hl
    case isFalse => contradiction
    case isTrue =>
      cases hl
      exact ⟨rfl, slice?_eq_some_iff.mpr ⟨before, _, hr, hp, ho⟩⟩
  case marked =>
    rw [ht.mark_eq]
    split <;> simp [*]
  case mark => exact h.exists_marksLastRuns hc
  case issue => exact h.atEnd_of_issue_ne_none hc

theorem length_steps_le (g : Grammar) (c : Cursor) : (g.steps c).length ≤ c.rest.length := by
  by_cases hc : c.rest = []
  case pos => simp [steps_of_rest_eq_nil hc]
  case neg =>
    have hs := g.step_shorter hc
    have hl := length_steps_le g (g.step c).cursor
    rw [steps_of_rest_ne_nil hc, List.length_cons]
    omega
termination_by c.rest.length
decreasing_by exact g.step_shorter hc

end Grammar

namespace Scan

structure Loop where
  cursor : Cursor
  found : Scan := {}

namespace Loop

def next (g : Grammar) (l : Loop) : Loop :=
  let s := g.step l.cursor
  { cursor := s.cursor
    found :=
      { lexemes := l.found.lexemes ++ s.emitted
        issues := l.found.issues ++ s.issue.toList } }

def result (l : Loop) : Scan :=
  { l.found with lexemes := l.found.lexemes ++ l.cursor.pending?.toList }

-- The loop ends with a result after `n` steps, the first time that the cursor is at the end.
inductive Ends (g : Grammar) : Loop → Nat → Scan → Prop
  | done {l : Loop} (atEnd : l.cursor.atEnd) : Ends g l 0 l.result
  | step {l : Loop} {n : Nat} {result : Scan} (ahead : ¬l.cursor.atEnd)
      (rest : Ends g (l.next g) n result) : Ends g l (n + 1) result

theorem ends (g : Grammar) (l : Loop) :
    Ends g l (g.steps l.cursor).length
      { lexemes := l.found.lexemes ++ (ofSteps l.cursor (g.steps l.cursor)).lexemes
        issues := l.found.issues ++ (ofSteps l.cursor (g.steps l.cursor)).issues } := by
  by_cases hc : l.cursor.rest = []
  case pos =>
    have h : Ends g l 0 l.result := .done (by simp [Cursor.atEnd, hc])
    simpa [Grammar.steps_of_rest_eq_nil hc, ofSteps, stop, result] using h
  case neg =>
    have h := Ends.step (by simpa [Cursor.atEnd] using hc) (ends g (l.next g))
    rw [Grammar.steps_of_rest_ne_nil hc, lexemes_ofSteps_cons, issues_ofSteps_cons]
    simpa [next] using h
termination_by l.cursor.rest.length
decreasing_by exact g.step_shorter hc

end Loop
end Scan

namespace Grammar

structure MakesProgress (g : Grammar) (source : Text) : Prop where
  atEnd : ∀ c, g.Reaches source c → (c.atEnd ↔ size source ≤ c.position.offset)
  step : ∀ c, g.Reaches source c → ¬c.atEnd → g.StepsOn source c
  loop : ∃ n ≤ source.length, Scan.Loop.Ends g { cursor := .ofText source } n (g.scan source)

theorem scan_makesProgress (g : Grammar) (source : Text) : g.MakesProgress source where
  atEnd _ h := h.atEnd_iff
  step c h hc := h.stepsOn (by simpa [Cursor.atEnd] using hc)
  loop := ⟨_, g.length_steps_le (.ofText source), Scan.Loop.ends g { cursor := .ofText source }⟩

-- A line comment that ends within its own marker, a block comment that ends on its opening marker,
-- and a string literal that is never closed.
example :
    let g := Grammar.ofSettings
      [.lineComment ['#', '\n', '!'], .blockComment ['(', '*'] ['*'], .string ['a', 'b'] ['b', 'a']]
    (g.steps (.ofText "xy#\n!(*aba".toList)).map (fun s => (s.rule, s.cursor.position.offset)) =
      [(.run, 1), (.run, 2), (.lineComment, 4), (.run, 5), (.blockComment, 7),
        (.stringLiteral, 10)] := by
  decide +kernel

end Grammar
end LexicalScan
