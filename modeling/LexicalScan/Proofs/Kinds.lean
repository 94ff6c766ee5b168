import LexicalScan.Proofs.Issues
import LexicalScan.Proofs.Literals

namespace LexicalScan

open Text

namespace Grammar

inductive HasKind (g : Grammar) (t : Text) : Token.Kind → Prop
  | number (isNumber : isNumber t) : HasKind g t .number
  | string (notNumber : ¬isNumber t) (enclosed : ∃ d ∈ g.string, d.encloses t) : HasKind g t .string
  | keyword (notNumber : ¬isNumber t) (notEnclosed : ¬∃ d ∈ g.string, d.encloses t)
      (keyword : t ∈ g.keywords.words) : HasKind g t (.keyword t)
  | symbol (notNumber : ¬isNumber t) (notEnclosed : ¬∃ d ∈ g.string, d.encloses t)
      (notKeyword : t ∉ g.keywords.words) (symbol : t ∈ g.symbols.words) : HasKind g t (.symbol t)
  | identifier (notNumber : ¬isNumber t) (notEnclosed : ¬∃ d ∈ g.string, d.encloses t)
      (notKeyword : t ∉ g.keywords.words) (notSymbol : t ∉ g.symbols.words) :
      HasKind g t .identifier

variable {g : Grammar} {source t : Text} {l : Lexeme} {rule : Rule} {issue : Option Issue}

theorem hasKind_classify (g : Grammar) (t : Text) : g.HasKind t (g.classify t) := by
  simp only [classify, Option.any_eq_true, isKeyword, isSymbol, Vocabulary.contains_iff]
  split
  case isTrue hn => exact .number hn
  case isFalse hn =>
    split
    case isTrue he => exact .string hn he
    case isFalse he =>
      split
      case isTrue hk => exact .keyword hn he hk
      case isFalse hk =>
        split
        case isTrue hs => exact .symbol hn he hk hs
        case isFalse hs => exact .identifier hn he hk hs

namespace Arises

theorem not_encloses (h : g.Arises source l rule issue) (hr : rule ≠ .stringLiteral) :
    ¬∃ d ∈ g.string, d.encloses l.text :=
  fun ⟨_, hd, he⟩ => hr (h.of_encloses hd he).1

theorem mem_symbols (h : g.Arises source l .symbol issue) : l.text ∈ g.symbols.words := by
  have ⟨c, _, hc, hl, hr, _⟩ := h.exists_step (by simp)
  have ⟨t, ht, _⟩ := g.step_takes hc
  have hp := ht.prescribed
  have ho := ht.own_eq
  rw [hr] at hp ho
  rw [hl, if_pos (.inr rfl), Option.some.injEq] at ho
  cases hp
  case symbol hm _ _ => exact ho ▸ hm

theorem not_mem_symbols (h : g.Arises source l .run issue) : l.text ∉ g.symbols.words := by
  have ⟨_, rest, s, hs, hr, ht⟩ := h.cuts
  intro hm
  exact hs.first .symbol (by rw [hr]; decide) ⟨l.text, hm, ht⟩

theorem issue_eq_none (h : g.Arises source l rule issue) (hr : rule ≠ .stringLiteral) :
    issue = none := by
  cases h
  case flushed => rfl
  case pending => rfl
  case own c _ hc hl =>
    have ⟨t, ht, _⟩ := g.step_takes hc
    have ho := ht.own_eq
    rw [hl] at ho
    split at ho
    case isFalse => contradiction
    case isTrue hs => simp [ht.issue_eq, leftOpen?, hs.resolve_left hr]

theorem last_of_issue {i : Issue} (h : g.Arises source l .stringLiteral (some i)) :
    (g.scan source).lexemes.getLast? = some l ∧ (g.scan source).issues = [i] := by
  constructor
  case left =>
    have ⟨c, hc, ha, hl, _, hi⟩ := h.exists_step (by simp)
    have ⟨t, ht, hs⟩ := g.step_takes ha
    have ⟨construct, ho, _⟩ := Option.map_eq_some_iff.mp (ht.issue_eq.symm.trans hi)
    have ⟨earlier, he⟩ := (hc.meets ha ht hs ho).lexemes_eq
    simp [he, hl]
  case right =>
    have hm := h.mem_issues
    have hl := g.length_issues_le source
    have ⟨j, hj⟩ := List.length_eq_one_iff.mp (hl.antisymm (List.length_pos_of_mem hm))
    rw [hj, List.mem_singleton] at hm
    rw [hj, hm]

end Arises

-- The kinds of lexemes agree with the rules that find them.
structure KindsFollowRules (g : Grammar) (source : Text) : Prop where
  symbol : ∀ l issue, g.Arises source l .symbol issue →
    l.text ∈ g.symbols.words ∧
    (g.classify l.text = .number ∨ g.classify l.text = .keyword l.text ∨
      g.classify l.text = .symbol l.text) ∧
    (g.classify l.text = .symbol l.text ↔ ¬isNumber l.text ∧ l.text ∉ g.keywords.words)
  run : ∀ l issue, g.Arises source l .run issue →
    g.classify l.text = .number ∨ g.classify l.text = .keyword l.text ∨
      g.classify l.text = .identifier
  token : ∀ l ∈ (g.scan source).lexemes, ∀ t, (g.token l).kind = .symbol t →
    t = l.text ∧
    (g.Arises source l .symbol none ∨
      g.Arises source l .stringLiteral (some ⟨.stringLiteral, l.start.line, l.start.column⟩) ∧
      (g.scan source).lexemes.getLast? = some l ∧
      (g.scan source).issues = [⟨.stringLiteral, l.start.line, l.start.column⟩])

theorem classify_lexeme_follows_rule (g : Grammar) (source : Text) : g.KindsFollowRules source where
  symbol l issue h := by
    have hm := h.mem_symbols
    have he := h.not_encloses (by simp)
    refine ⟨hm, ?_⟩
    have hk := g.hasKind_classify l.text
    generalize g.classify l.text = kind at hk ⊢
    cases hk
    case number hn => simp [hn]
    case string he' => exact absurd he' he
    case keyword hk => simp [hk]
    case symbol hn _ hk _ => simp [hn, hk]
    case identifier hs => exact absurd hm hs
  run l issue h := by
    have he := h.not_encloses (by simp)
    have hk := g.hasKind_classify l.text
    generalize g.classify l.text = kind at hk ⊢
    cases hk
    case number => simp
    case string he' => exact absurd he' he
    case keyword => simp
    case symbol hs => exact absurd hs h.not_mem_symbols
    case identifier => simp
  token l hl t hk := by
    have ht : g.HasKind l.text (.symbol t) := hk ▸ g.hasKind_classify l.text
    cases ht
    case symbol hn he _ hs =>
      refine ⟨rfl, ?_⟩
      have ⟨rule, issue, h⟩ := mem_lexemes_iff.mp hl
      have ⟨hx, _⟩ := h.cuts
      cases rule
      case symbol => exact .inl (h.issue_eq_none (by simp) ▸ h)
      case run => exact absurd hs h.not_mem_symbols
      case stringLiteral =>
        -- A closed literal would be enclosed.
        have ⟨d, hd, body, hb, hc⟩ := h.stringLiteral_cases
        rcases hc with ⟨_, hi⟩ | ⟨_, hi⟩
        · exact absurd (hi ▸ h).encloses he
        · subst hi
          exact .inr ⟨h, h.last_of_issue⟩
      all_goals contradiction

-- An open literal that spells a symbol.
example :
    let g := Grammar.ofSettings [.symbols [['=', '"']], .string ['=', '"'] ['"']]
    (g.scan "a=\"".toList).lexemes.map (fun l => (g.token l).kind) =
      [.identifier, .symbol ['=', '"']] := by
  decide +kernel

end Grammar
end LexicalScan
