import LexicalScan.Proofs.Kinds
import LexicalScan.Lexer.Basic

namespace LexicalScan

open Text

-- Two lists have the same words, in whichever order and number. Empty words do not count.
def SameWords (ws₁ ws₂ : List Text) : Prop :=
  ∀ w, w ≠ [] → (w ∈ ws₁ ↔ w ∈ ws₂)

theorem SameWords.mem_ofList {ws₁ ws₂ : List Text} (h : SameWords ws₁ ws₂) (w : Text) :
    w ∈ (Vocabulary.ofList ws₁).words ↔ w ∈ (Vocabulary.ofList ws₂).words := by
  rw [Vocabulary.mem_ofList, Vocabulary.mem_ofList]
  exact and_congr_left fun hw => h w hw

namespace Grammar

def Setting.keywords? : Setting → Option (List Text)
  | keywords words => some words
  | _ => none

def Setting.symbols? : Setting → Option (List Text)
  | symbols words => some words
  | _ => none

def last? {α : Type} (given? : Setting → Option α) (settings : List Setting) : Option α :=
  (settings.filterMap given?).getLast?

-- A part that each setting for it replaces, and no other setting touches, is made of what the last
-- of them gives. Before the first it is made of `nothing`.
theorem part_ofSettings {α β : Type} {nothing : α} (given? : Setting → Option α) (make : α → β)
    (part : Grammar → β) (hn : part {} = make nothing)
    (hs : ∀ (g : Grammar) (s : Setting), part (g.set s) = ((given? s).map make).getD (part g))
    (settings : List Setting) :
    part (ofSettings settings) = make ((last? given? settings).getD nothing) := by
  induction settings using List.reverseRecOn
  case nil => exact hn
  case append_singleton settings s ih =>
    have he : ofSettings (settings ++ [s]) = (ofSettings settings).set s := by
      simp [ofSettings]
    rw [he, hs, ih, last?, last?, List.filterMap_append]
    cases hg : given? s <;> simp [hg]

def givenKeywords (settings : List Setting) : List Text :=
  (last? Setting.keywords? settings).getD []

def givenSymbols (settings : List Setting) : List Text :=
  (last? Setting.symbols? settings).getD []

theorem keywords_ofSettings (settings : List Setting) :
    (ofSettings settings).keywords = .ofList (givenKeywords settings) :=
  part_ofSettings _ .ofList keywords rfl (fun _ s => by cases s <;> rfl) settings

theorem symbols_ofSettings (settings : List Setting) :
    (ofSettings settings).symbols = .ofList (givenSymbols settings) :=
  part_ofSettings _ .ofList symbols rfl (fun _ s => by cases s <;> rfl) settings

structure SameMarkers (g₁ g₂ : Grammar) : Prop where
  string_eq : g₁.string = g₂.string
  lineComment_eq : g₁.lineComment = g₂.lineComment
  blockComment_eq : g₁.blockComment = g₂.blockComment

variable {g₁ g₂ : Grammar} {t : Text}

theorem step_congr (hm : g₁.SameMarkers g₂)
    (hs : ∀ w, w ∈ g₁.symbols.words ↔ w ∈ g₂.symbols.words) (c : Cursor) :
    g₁.step c = g₂.step c := by
  have hl : Step.lineComment? g₁ = Step.lineComment? g₂ := by
    funext c
    rw [Step.lineComment?, Step.lineComment?, hm.lineComment_eq]
  have hb : Step.blockComment? g₁ = Step.blockComment? g₂ := by
    funext c
    rw [Step.blockComment?, Step.blockComment?, hm.blockComment_eq]
  have ht : Step.stringLiteral? g₁ = Step.stringLiteral? g₂ := by
    funext c
    rw [Step.stringLiteral?, Step.stringLiteral?, hm.string_eq]
  have hy : Step.symbol? g₁ = Step.symbol? g₂ := by
    funext c
    rw [Step.symbol?, Step.symbol?, Cursor.longestMatch?_congr fun w _ => hs w]
  rw [step, step, rules, rules, hl, hb, ht, hy]

theorem steps_congr (h : ∀ c, g₁.step c = g₂.step c) (c : Cursor) : g₁.steps c = g₂.steps c := by
  by_cases hc : c.rest = []
  case pos => rw [steps_of_rest_eq_nil hc, steps_of_rest_eq_nil hc]
  case neg => rw [steps_of_rest_ne_nil hc, steps_of_rest_ne_nil hc, h c, steps_congr h]
termination_by c.rest.length
decreasing_by exact g₂.step_shorter hc

theorem scan_congr (hm : g₁.SameMarkers g₂)
    (hs : ∀ w, w ∈ g₁.symbols.words ↔ w ∈ g₂.symbols.words) (source : Text) :
    g₁.scan source = g₂.scan source := by
  rw [scan, scan, steps_congr (step_congr hm hs)]

theorem classify_ne_iff (hm : g₁.SameMarkers g₂)
    (hs : ∀ w, w ∈ g₁.symbols.words ↔ w ∈ g₂.symbols.words) :
    g₁.classify t ≠ g₂.classify t ↔
      ¬(t ∈ g₁.keywords.words ↔ t ∈ g₂.keywords.words) ∧ ¬isNumber t ∧
        ¬∃ d ∈ g₁.string, d.encloses t := by
  simp only [classify, Option.any_eq_true, Option.mem_def, isKeyword, isSymbol,
    Vocabulary.contains_iff, ← hm.string_eq, ← hs]
  by_cases hn : isNumber t
  case pos => simp [hn]
  case neg =>
    by_cases he : ∃ d, g₁.string = some d ∧ d.encloses t
    case pos =>
      rw [if_neg hn, if_neg hn, if_pos he, if_pos he]
      exact iff_of_false (· rfl) fun h => h.2.2 he
    case neg =>
      rw [if_neg hn, if_neg hn, if_neg he, if_neg he, and_iff_left ⟨hn, he⟩]
      have hk :
          (if t ∈ g₁.symbols.words then Token.Kind.symbol t else .identifier) ≠ .keyword t := by
        split <;> simp
      by_cases h₁ : t ∈ g₁.keywords.words <;> by_cases h₂ : t ∈ g₂.keywords.words <;>
        simp [h₁, h₂, hk, hk.symm]

-- Tokens of one lexeme. Their kinds differ if its text is a keyword of one grammar only, and it is
-- neither a number nor enclosed by the delimiters of string literals.
structure DifferByKeyword (g₁ g₂ : Grammar) (t₁ t₂ : Token) : Prop where
  lexeme_eq : t₁.lexeme = t₂.lexeme
  kind_ne_iff : t₁.kind ≠ t₂.kind ↔
    ¬(t₁.lexeme.text ∈ g₁.keywords.words ↔ t₁.lexeme.text ∈ g₂.keywords.words) ∧
      ¬isNumber t₁.lexeme.text ∧ ¬∃ d ∈ g₁.string, d.encloses t₁.lexeme.text

theorem DifferByKeyword.eq {t₁ t₂ : Token} (h : DifferByKeyword g₁ g₂ t₁ t₂)
    (hk : ∀ w, w ∈ g₁.keywords.words ↔ w ∈ g₂.keywords.words) : t₁ = t₂ := by
  have hl := h.lexeme_eq
  have hn : t₁.kind = t₂.kind := by_contra fun hn => (h.kind_ne_iff.mp hn).1 (hk _)
  cases t₁
  cases t₂
  simp_all

theorem drain_analyze_sameSymbols {settings₁ settings₂ : List Setting}
    (hm : (ofSettings settings₁).SameMarkers (ofSettings settings₂))
    (hs : SameWords (givenSymbols settings₁) (givenSymbols settings₂)) (source : Text) :
    let l₁ := Lexer.analyze { grammar := ofSettings settings₁ } source
    let l₂ := Lexer.analyze { grammar := ofSettings settings₂ } source
    l₁.scan = l₂.scan ∧
    List.Forall₂ (DifferByKeyword l₁.grammar l₂.grammar) l₁.drain.1 l₂.drain.1 ∧
    (SameWords (givenKeywords settings₁) (givenKeywords settings₂) → l₁.drain.1 = l₂.drain.1) := by
  intro l₁ l₂
  have hw : ∀ w, w ∈ (ofSettings settings₁).symbols.words ↔
      w ∈ (ofSettings settings₂).symbols.words := by
    rw [symbols_ofSettings, symbols_ofSettings]
    exact hs.mem_ofList
  have hc : l₁.scan = l₂.scan := scan_congr hm hw source
  have hf : List.Forall₂ (DifferByKeyword l₁.grammar l₂.grammar) l₁.drain.1 l₂.drain.1 := by
    simp only [Lexer.drain, Lexer.rest, hc]
    rw [List.forall₂_map_left_iff, List.forall₂_map_right_iff]
    exact List.forall₂_same.mpr fun l _ => ⟨rfl, classify_ne_iff hm hw⟩
  refine ⟨hc, hf, fun hk => ?_⟩
  rw [← List.forall₂_eq_eq_eq]
  refine hf.imp fun t₁ t₂ h => h.eq ?_
  simp only [l₁, l₂, Lexer.analyze, keywords_ofSettings]
  exact hk.mem_ofList

-- Words in another order, with repeated and empty ones and with settings that are replaced.
theorem drain_analyze_sameSymbols_reordered :
    let settings₁ : List Setting := [.symbols [['='], ['=', '=']], .keywords [['i', 'f'], ['x']]]
    let settings₂ : List Setting :=
      [.keywords [['x'], [], ['i', 'f'], ['i', 'f']], .symbols [['+']],
        .symbols [['=', '='], [], ['='], ['=']]]
    let source := "if x===y".toList
    let l₁ := Lexer.analyze { grammar := ofSettings settings₁ } source
    let l₂ := Lexer.analyze { grammar := ofSettings settings₂ } source
    (ofSettings settings₁).SameMarkers (ofSettings settings₂) ∧
    SameWords (givenSymbols settings₁) (givenSymbols settings₂) ∧
    SameWords (givenKeywords settings₁) (givenKeywords settings₂) ∧
    l₁.drain.1.map Token.kind = [.keyword "if".toList, .keyword "x".toList, .symbol "==".toList,
      .symbol "=".toList, .identifier] ∧
    l₁.scan = l₂.scan ∧
    List.Forall₂ (DifferByKeyword l₁.grammar l₂.grammar) l₁.drain.1 l₂.drain.1 ∧
    l₁.drain.1 = l₂.drain.1 := by
  intro settings₁ settings₂ source l₁ l₂
  have hm : (ofSettings settings₁).SameMarkers (ofSettings settings₂) := ⟨rfl, rfl, rfl⟩
  have hs : SameWords (givenSymbols settings₁) (givenSymbols settings₂) := by
    intro w hw
    change w ∈ [['='], ['=', '=']] ↔ w ∈ [['=', '='], [], ['='], ['=']]
    simp [hw, or_comm]
  have hk : SameWords (givenKeywords settings₁) (givenKeywords settings₂) := by
    intro w hw
    change w ∈ [['i', 'f'], ['x']] ↔ w ∈ [['x'], [], ['i', 'f'], ['i', 'f']]
    simp [hw, or_comm]
  have ⟨hc, hf, he⟩ := drain_analyze_sameSymbols hm hs source
  exact ⟨hm, hs, hk, by decide +kernel, hc, hf, he hk⟩

-- One keyword less changes the kind of one token.
example :
    let g := ofSettings [.symbols [['=']], .keywords [['i', 'f'], ['x']]]
    let kinds (g : Grammar) :=
      (Lexer.analyze { grammar := g } "if x=1".toList).drain.1.map Token.kind
    kinds g = [.keyword ['i', 'f'], .keyword ['x'], .symbol ['='], .number] ∧
    kinds (g.set (.keywords [['i', 'f'], ['1']])) =
      [.keyword ['i', 'f'], .identifier, .symbol ['='], .number] := by
  decide +kernel

end Grammar
end LexicalScan
