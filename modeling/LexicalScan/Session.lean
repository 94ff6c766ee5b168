namespace LexicalScan

-- A state that commands change, and a slot with a copy of an earlier one.
structure Session (α : Type) where
  current : α
  saved : α
  deriving DecidableEq

namespace Session

variable {α κ ρ : Type}

inductive Command (κ : Type)
  | own (command : κ)
  | save
  | restore
  deriving DecidableEq

def start (a : α) : Session α where
  current := a
  saved := a

def run (step : α → κ → ρ × α) (s : Session α) : Command κ → Option ρ × Session α
  | .own command => let (reply, current) := step s.current command; (some reply, { s with current })
  | .save => (none, { s with saved := s.current })
  | .restore => (none, { s with current := s.saved })

def after (step : α → κ → ρ × α) (s : Session α) (commands : List (Command κ)) : Session α :=
  commands.foldl (fun s command => (s.run step command).2) s

-- The states that commands lead to from `a`. The slot may hold a copy of any of them, so there may
-- be any number of copies, made and taken back at any time.
inductive Reached (step : α → κ → ρ × α) (a : α) : α → Prop
  | start : Reached step a a
  | run {b copy : α} (here : Reached step a b) (saved : Reached step a copy) (command : Command κ) :
      Reached step a (Session.run step ⟨b, copy⟩ command).2.current

variable {step : α → κ → ρ × α} {P : α → Prop} {s : Session α} {a b : α}

theorem Reached.invariant (start : P a) (own : ∀ b command, P b → P (step b command).2)
    (h : Reached step a b) : P b := by
  induction h
  case start => exact start
  case run b copy _ _ command hb hc =>
    cases command
    case own command => exact own b command hb
    case save => exact hb
    case restore => exact hc

theorem after_invariant {commands : List (Command κ)}
    (own : ∀ b command, .own command ∈ commands → P b → P (step b command).2)
    (current : P s.current) (saved : P s.saved) : P (s.after step commands).current := by
  induction commands generalizing s
  case nil => exact current
  case cons command commands ih =>
    have hc : P (s.run step command).2.current ∧ P (s.run step command).2.saved := by
      cases command
      case own command => exact ⟨own _ command (.head _) current, saved⟩
      case save => exact ⟨current, current⟩
      case restore => exact ⟨saved, saved⟩
    exact ih (fun b command hm => own b command (.tail _ hm)) hc.1 hc.2

theorem reached_after (step : α → κ → ρ × α) (a : α) (commands : List (Command κ)) :
    Reached step a ((start a).after step commands).current :=
  after_invariant (fun _ command _ h => h.run h (.own command)) .start .start

end Session
end LexicalScan
