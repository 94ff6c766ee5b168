import Mathlib.Logic.Function.Iterate
import LexicalScan.Lexer.Command

namespace LexicalScan

namespace Lexer

variable {g : Grammar} {l : Lexer} {m n : Nat}

theorem next_eq (l : Lexer) :
    l.next = (l.scan.lexemes[l.read]?.map l.grammar.token, l.pass 1) := by
  unfold next
  split
  case h_1 lexeme h =>
    have ⟨hl, _⟩ := List.getElem?_eq_some_iff.mp h
    have hm : min 1 l.remaining = 1 := by unfold remaining; omega
    simp [pass, h, hm]
  case h_2 h =>
    have hl := List.getElem?_eq_none_iff.mp h
    have hm : min 1 l.remaining = 0 := by unfold remaining; omega
    simp [pass, h, hm]

theorem pass_eq_self (h : l.remaining = 0) (n : Nat) : l.pass n = l := by
  simp [pass, h]

@[simp]
theorem pass_pass : (l.pass m).pass n = l.pass (m + n) := by
  simp only [pass, remaining, mk.injEq, true_and]
  omega

theorem iterate_next (l : Lexer) (n : Nat) : (fun l => l.next.2)^[n] l = l.pass n := by
  induction n generalizing l
  case zero => simp [pass]
  case succ n ih => rw [Function.iterate_succ_apply, ih, next_eq, pass_pass, Nat.add_comm]

-- The tokens that a lexer gives in turn until it gives none, and the lexer after that.
inductive Yields : Lexer → List Token → Lexer → Prop
  | none {l : Lexer} (next_eq : l.next.1 = none) : Yields l [] l.next.2
  | token {l l' : Lexer} {t : Token} {ts : List Token} (next_eq : l.next.1 = some t)
      (rest : Yields l.next.2 ts l') : Yields l (t :: ts) l'

theorem yields_rest {ls : List Lexeme} (h : l.scan.lexemes.drop l.read = ls) :
    l.Yields (ls.map l.grammar.token) (l.pass ls.length) := by
  induction ls generalizing l
  case nil =>
    have hl := List.drop_eq_nil_iff.mp h
    have hr : l.remaining = 0 := Nat.sub_eq_zero_of_le hl
    have hn : l.next.1 = none := by simp [next_eq, hl]
    simpa [next_eq, pass_eq_self hr] using Yields.none hn
  case cons x ls ih =>
    have hx : l.scan.lexemes[l.read]? = some x := by
      rw [← List.head?_drop, h, List.head?_cons]
    have ⟨hl, _⟩ := List.getElem?_eq_some_iff.mp hx
    have hd : (l.pass 1).scan.lexemes.drop (l.pass 1).read = ls := by
      have hm : (l.pass 1).read = l.read + 1 := by simp only [pass, remaining]; omega
      rw [hm, ← List.tail_drop, show (l.pass 1).scan = l.scan from rfl, h, List.tail_cons]
    have hr := ih hd
    rw [pass_pass, Nat.add_comm] at hr
    exact .token (by simp [next_eq, hx]) (next_eq l ▸ hr)

theorem yields_drain (l : Lexer) : l.Yields l.drain.1 l.drain.2 := by
  have h := l.yields_rest rfl
  rwa [List.length_drop] at h

structure Consistent (g : Grammar) (l : Lexer) : Prop where
  grammar_eq : l.grammar = g
  scan_eq : l.scan = g.scan l.source
  read_le : l.read ≤ l.scan.lexemes.length

namespace Consistent

theorem new (g : Grammar) : Consistent g { grammar := g } where
  grammar_eq := rfl
  scan_eq := by
    have hs : g.steps (.ofText []) = [] := Grammar.steps_of_rest_eq_nil rfl
    rw [Grammar.scan, hs]
    rfl
  read_le := Nat.zero_le _

theorem analyze (h : l.Consistent g) (source : Text) : (l.analyze source).Consistent g where
  grammar_eq := h.grammar_eq
  scan_eq := h.grammar_eq ▸ rfl
  read_le := Nat.zero_le _

theorem pass (h : l.Consistent g) (n : Nat) : (l.pass n).Consistent g where
  grammar_eq := h.grammar_eq
  scan_eq := h.scan_eq
  read_le := by
    have := h.read_le
    simp only [Lexer.pass, remaining]
    omega

theorem remaining_add_read (h : l.Consistent g) :
    l.remaining + l.read = l.scan.lexemes.length :=
  Nat.sub_add_cancel h.read_le

end Consistent

def Command.consumes : Command → Bool
  | next | nth _ | drain => true
  | analyze _ | lexemes | grammar => false

theorem run_of_consumes (l : Lexer) {command : Command} (h : command.consumes) :
    ∃ n, (l.run command).2 = l.pass n := by
  cases command
  case next => exact ⟨1, by simp [run, next_eq]⟩
  case nth n => exact ⟨n + 1, by simp [run, Lexer.nth, next_eq]⟩
  case drain => exact ⟨l.remaining, rfl⟩
  all_goals contradiction

theorem run_cases (l : Lexer) (command : Command) :
    (∃ source, command = .analyze source ∧ (l.run command).2 = l.analyze source) ∨
      ∃ n, (l.run command).2 = l.pass n := by
  have stays : l = l.pass 0 := by simp [pass]
  cases command
  case analyze source => exact .inl ⟨source, rfl, rfl⟩
  case next => exact .inr (l.run_of_consumes rfl)
  case nth => exact .inr (l.run_of_consumes rfl)
  case drain => exact .inr (l.run_of_consumes rfl)
  all_goals exact .inr ⟨0, stays⟩

theorem Consistent.run (h : l.Consistent g) (command : Command) :
    (l.run command).2.Consistent g := by
  rcases l.run_cases command with ⟨source, _, he⟩ | ⟨n, he⟩
  case inl => exact he ▸ h.analyze source
  case inr => exact he ▸ h.pass n

theorem Reached.consistent (h : Reached g l) : l.Consistent g :=
  h.invariant (.new g) fun _ command hl => hl.run command

theorem source_after {commands : List (Session.Command Command)}
    (h : ∀ source, .own (.analyze source) ∉ commands) :
    ((Session.start { grammar := g }).after run commands).current.source = [] := by
  apply Session.after_invariant (P := fun l : Lexer => l.source = []) _ rfl rfl
  intro l command hc hl
  rcases l.run_cases command with ⟨source, he, _⟩ | ⟨n, he⟩
  case inl => exact absurd (he ▸ hc) (h source)
  case inr => rw [he, ← hl]; rfl

-- Whichever commands it is given, a lexer for `g` stays consistent and gives out the tokens of its
-- source in order.
structure StaysConsistent (g : Grammar) : Prop where
  session : ∀ commands, Reached g ((Session.start { grammar := g }).after run commands).current
  unused : ∀ commands, (∀ source, .own (.analyze source) ∉ commands) →
    ((Session.start { grammar := g }).after run commands).current.source = []
  state : ∀ l, Reached g l →
    l.grammar = g ∧ l.scan = g.scan l.source ∧ l.read ≤ l.scan.lexemes.length
  count : ∀ l, Reached g l →
    l.remaining + l.read = l.scan.lexemes.length ∧
    l.bounds = (l.remaining, some l.remaining) ∧ l.count? = some l.remaining
  drain : ∀ l, Reached g l →
    l.drain = (((g.scan l.source).lexemes.drop l.read).map g.token,
      { l with read := (g.scan l.source).lexemes.length }) ∧
    l.Yields l.drain.1 l.drain.2
  nth : ∀ l, Reached g l → ∀ n, l.nth n = ((fun l => l.next.2)^[n] l).next
  consume : ∀ l copy command, Reached g l → command.consumes →
    ∃ read, l.read ≤ read ∧
      (Session.run run ⟨l, copy⟩ (.own command)).2 = ⟨{ l with read }, copy⟩
  exhausted : ∀ l, Reached g l → l.remaining = 0 →
    l.next = (none, l) ∧ (∀ n, l.nth n = (none, l)) ∧ l.drain = ([], l)
  analyze : ∀ l source, Reached g l →
    l.analyze source = { grammar := g, source, scan := g.scan source, read := 0 }

theorem reached_staysConsistent (g : Grammar) : StaysConsistent g where
  session := Session.reached_after run _
  unused _ h := source_after h
  state l h := ⟨h.consistent.grammar_eq, h.consistent.scan_eq, h.consistent.read_le⟩
  count l h := ⟨h.consistent.remaining_add_read, rfl, by simp [count?, bounds]⟩
  drain l h := by
    obtain ⟨rfl, hs, hr⟩ := h.consistent
    refine ⟨?_, l.yields_drain⟩
    simp only [← hs, Lexer.drain, rest, pass, remaining, Nat.min_self, Nat.add_sub_cancel' hr]
  nth l _ n := by rw [iterate_next, Lexer.nth]
  consume l copy command _ hc := by
    have ⟨n, hn⟩ := l.run_of_consumes hc
    exact ⟨_, Nat.le_add_right .., congrArg (Session.mk · copy) hn⟩
  exhausted l h hr := by
    have hn : l.next = (none, l) := by
      have hl := Nat.le_of_sub_eq_zero hr
      simp [next_eq, pass_eq_self hr, hl]
    refine ⟨hn, fun n => ?_, ?_⟩
    · rw [Lexer.nth, pass_eq_self hr, hn]
    · have hl := Nat.le_of_sub_eq_zero hr
      simp [Lexer.drain, rest, pass_eq_self hr, hl]
  analyze l source h := by rw [Lexer.analyze, h.consistent.grammar_eq]

-- A copy of an older source is taken back after a newer one is read past its end.
example :
    let s := (Session.start { grammar := {} }).after run
      [.own (.analyze "a b".toList), .own .next, .save, .own (.analyze "c".toList), .own (.nth 1),
        .restore]
    s.current.source = "a b".toList ∧ s.current.next.1 = some ⟨.identifier, ['b'], ⟨2, 1, 3⟩⟩ := by
  decide +kernel

end Lexer
end LexicalScan
