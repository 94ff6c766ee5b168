import LexicalScan.Step

namespace LexicalScan

namespace Grammar

variable {g : Grammar} {c : Cursor} {done : List Step}

-- The steps from `c` to the end of its source, after those `done`, which stand last first.
def stepsOnto (g : Grammar) (c : Cursor) (done : List Step) : List Step :=
  if _ : c.rest = [] then
    done.reverse
  else
    stepsOnto g (g.step c).cursor (g.step c :: done)
termination_by c.rest.length
decreasing_by exact g.step_shorter ‹_›

def steps (g : Grammar) (c : Cursor) : List Step :=
  g.stepsOnto c []

theorem stepsOnto_of_rest_ne_nil (h : c.rest ≠ []) :
    g.stepsOnto c done = g.stepsOnto (g.step c).cursor (g.step c :: done) := by
  rw [stepsOnto, dif_neg h]

theorem stepsOnto_eq (g : Grammar) (c : Cursor) (done : List Step) :
    g.stepsOnto c done = done.reverse ++ g.steps c := by
  by_cases h : c.rest = []
  case pos => simp [steps, stepsOnto, h]
  case neg =>
    rw [steps, stepsOnto_of_rest_ne_nil h, stepsOnto_of_rest_ne_nil h,
      stepsOnto_eq g _ (_ :: done), stepsOnto_eq g _ [_]]
    simp
termination_by c.rest.length
decreasing_by all_goals exact g.step_shorter h

theorem steps_of_rest_eq_nil (h : c.rest = []) : g.steps c = [] := by
  simp [steps, stepsOnto, h]

theorem steps_of_rest_ne_nil (h : c.rest ≠ []) :
    g.steps c = g.step c :: g.steps (g.step c).cursor := by
  simp [steps, stepsOnto_of_rest_ne_nil h, stepsOnto_eq g _ [_]]

end Grammar

structure Scan where
  lexemes : List Lexeme := []
  issues : List Issue := []
  deriving DecidableEq

namespace Scan

def stop (c : Cursor) (steps : List Step) : Cursor :=
  steps.foldl (fun _ s => s.cursor) c

-- What steps from `c` bring forth. A run that is still pending after them is the last lexeme.
def ofSteps (c : Cursor) (steps : List Step) : Scan where
  lexemes := steps.flatMap Step.emitted ++ (stop c steps).pending?.toList
  issues := steps.filterMap Step.issue

theorem lexemes_ofSteps_cons {c : Cursor} {s : Step} {steps : List Step} :
    (ofSteps c (s :: steps)).lexemes = s.emitted ++ (ofSteps s.cursor steps).lexemes := by
  simp [ofSteps, stop]

theorem issues_ofSteps_cons {c : Cursor} {s : Step} {steps : List Step} :
    (ofSteps c (s :: steps)).issues = s.issue.toList ++ (ofSteps s.cursor steps).issues := by
  cases h : s.issue <;> simp [ofSteps, h]

end Scan

def Grammar.scan (g : Grammar) (source : Text) : Scan :=
  let c := Cursor.ofText source
  .ofSteps c (g.steps c)

end LexicalScan
