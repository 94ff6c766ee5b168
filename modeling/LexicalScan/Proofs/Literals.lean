import LexicalScan.Proofs.Reach
import LexicalScan.Token

namespace LexicalScan

open Text

theorem Delimiters.encloses_iff {d : Delimiters} {t : Text} :
    d.encloses t ↔ ∃ body, t = d.opening.text ++ body ++ d.closing.text := by
  simp only [encloses, Bool.and_eq_true, decide_eq_true_eq, List.isPrefixOf_iff_prefix,
    List.isSuffixOf_iff_suffix]
  constructor
  case mp =>
    rintro ⟨⟨hs, rest, rfl⟩, hc⟩
    have hl : size d.closing.text ≤ size rest := by
      rw [size_append] at hs
      omega
    have ⟨body, hb⟩ := isSuffix_of_size_le hc (List.suffix_append ..) hl
    exact ⟨body, by rw [List.append_assoc, hb]⟩
  case mpr =>
    rintro ⟨body, rfl⟩
    refine ⟨⟨?_, by simp⟩, List.suffix_append ..⟩
    simp only [size_append]
    omega

namespace Grammar

variable {g : Grammar} {source t : Text} {l : Lexeme} {rule : Rule} {issue : Option Issue}

theorem classify_eq_string_iff :
    g.classify t = .string ↔ ¬isNumber t ∧ ∃ d ∈ g.string, d.encloses t := by
  simp only [classify, Option.mem_def, ← Option.any_eq_true]
  split
  case isTrue hn => simp [hn]
  case isFalse hn =>
    split
    case isTrue he => simp [hn, he]
    case isFalse he =>
      refine iff_of_false ?_ fun h => he h.2
      split
      case isTrue => simp
      case isFalse => split <;> simp

-- An enclosed lexeme is a closed literal: no other rule finds a text that begins like one, and a
-- literal that contains its closing marker ends with it.
theorem Arises.of_encloses {d : Delimiters} (h : g.Arises source l rule issue) (hd : d ∈ g.string)
    (he : d.encloses l.text) : rule = .stringLiteral ∧ issue = none := by
  have ⟨body, ht⟩ := Delimiters.encloses_iff.mp he
  rw [List.append_assoc] at ht
  cases h.eq_stringLiteral_of_isPrefix hd ⟨_, ht.symm⟩
  have ⟨d', hd', body', ht', hc⟩ := h.stringLiteral_cases
  cases Option.mem_unique hd hd'
  cases List.append_cancel_left (ht.symm.trans ht')
  rcases hc with ⟨_, hi⟩ | ⟨hn, _⟩
  · exact ⟨rfl, hi⟩
  · exact absurd (List.suffix_append ..).isInfix hn

theorem Arises.encloses (h : g.Arises source l .stringLiteral none) :
    ∃ d ∈ g.string, d.encloses l.text := by
  have ⟨d, hd, body, ht, hc⟩ := h.stringLiteral_cases
  rcases hc with ⟨⟨body, hb⟩, _⟩ | ⟨_, hi⟩
  · exact ⟨d, hd, Delimiters.encloses_iff.mpr ⟨body, by rw [ht, ← hb, List.append_assoc]⟩⟩
  · contradiction

theorem classify_lexeme_eq_string_iff (hl : l ∈ (g.scan source).lexemes) :
    (¬isNumber l.text →
      (g.classify l.text = .string ↔ g.Arises source l .stringLiteral none)) ∧
    ∀ rule issue, g.Arises source l rule issue → g.classify l.text = .string →
      rule = .stringLiteral ∧ issue = none := by
  have hc : ∀ rule issue, g.Arises source l rule issue → g.classify l.text = .string →
      rule = .stringLiteral ∧ issue = none := by
    intro rule issue h hk
    have ⟨_, d, hd, he⟩ := classify_eq_string_iff.mp hk
    exact h.of_encloses hd he
  refine ⟨fun hn => ⟨fun hk => ?_, fun h => ?_⟩, hc⟩
  · have ⟨rule, issue, h⟩ := mem_lexemes_iff.mp hl
    have ⟨hr, hi⟩ := hc rule issue h hk
    exact hr ▸ hi ▸ h
  · exact classify_eq_string_iff.mpr ⟨hn, h.encloses⟩

-- Delimiters that overlap: the last lexeme begins with the one and ends with the other, and is not
-- closed.
theorem classify_lexeme_overlapping :
    let g := Grammar.ofSettings [.symbols [['é', 'a']], .string ['a', 'é'] ['é', 'a']]
    let source := "aééa éa aéa".toList
    let l : Lexeme := ⟨"aéa".toList, ⟨11, 1, 9⟩⟩
    l ∈ (g.scan source).lexemes ∧ g.classify l.text = .identifier ∧
    (¬isNumber l.text →
      (g.classify l.text = .string ↔ g.Arises source l .stringLiteral none)) ∧
    ∀ rule issue, g.Arises source l rule issue → g.classify l.text = .string →
      rule = .stringLiteral ∧ issue = none := by
  intro g source l
  have hl : l ∈ (g.scan source).lexemes := by decide +kernel
  exact ⟨hl, by decide +kernel, classify_lexeme_eq_string_iff hl⟩

end Grammar
end LexicalScan
