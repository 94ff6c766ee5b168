import LexicalScan.Proofs.Occurrence
import LexicalScan.Step

namespace LexicalScan

open Text

namespace Rule

def rank : Rule → Nat
  | blank => 1
  | lineComment => 2
  | blockComment => 3
  | stringLiteral => 4
  | symbol => 5
  | run => 6

theorem rank_inj {r₁ r₂ : Rule} (h : r₁.rank = r₂.rank) : r₁ = r₂ := by
  cases r₁ <;> cases r₂ <;> simp [rank] at h ⊢

def isComment : Rule → Bool
  | lineComment | blockComment => true
  | blank | stringLiteral | symbol | run => false

def inOrder : List Rule :=
  [blank, lineComment, blockComment, stringLiteral, symbol, run]

theorem mem_inOrder (rule : Rule) : rule ∈ inOrder := by
  cases rule <;> decide

theorem inOrder_pairwise : inOrder.Pairwise (rank · < rank ·) := by
  decide

end Rule

def Construct.rule : Construct → Rule
  | stringLiteral => .stringLiteral
  | blockComment => .blockComment

structure Segment where
  rule : Rule
  text : Text
  deriving DecidableEq

namespace Segment

def concat (segments : List Segment) : Text :=
  segments.flatMap text

@[simp]
theorem concat_nil : concat [] = [] :=
  rfl

@[simp]
theorem concat_cons {s : Segment} {ss : List Segment} : concat (s :: ss) = s.text ++ concat ss := by
  simp [concat]

@[simp]
theorem concat_append {ss₁ ss₂ : List Segment} :
    concat (ss₁ ++ ss₂) = concat ss₁ ++ concat ss₂ := by
  simp [concat]

end Segment

namespace Grammar

def Applies (g : Grammar) (t : Text) : Rule → Prop
  | .blank => ∃ c, isBlank c ∧ [c] <+: t
  | .lineComment => ∃ m ∈ g.lineComment, m.text <+: t
  | .blockComment => ∃ d ∈ g.blockComment, d.opening.text <+: t
  | .stringLiteral => ∃ d ∈ g.string, d.opening.text <+: t
  | .symbol => ∃ w ∈ g.symbols.words, w <+: t
  | .run => t ≠ []

theorem Applies.mono {g : Grammar} {t u : Text} {rule : Rule} (h : g.Applies t rule)
    (hu : t <+: u) : g.Applies u rule := by
  have he {α : Type} {p : α → Prop} {f : α → Text} :
      (∃ x, p x ∧ f x <+: t) → ∃ x, p x ∧ f x <+: u :=
    Exists.imp fun _ ⟨hx, hp⟩ => ⟨hx, hp.trans hu⟩
  cases rule
  case run => exact hu.ne_nil h
  all_goals exact he h

-- What a rule that applies takes of the text `t`. A comment or a literal that is not closed reaches
-- to the end.
inductive Prescribes (g : Grammar) (t : Text) : Rule → Text → Prop
  | blank {c : Char} (isBlank : isBlank c) (here : [c] <+: t) : Prescribes g t .blank [c]
  | lineComment {m : Marker} {s : Text} (mem : m ∈ g.lineComment) (here : m.text <+: t)
      (through : Through ['\n'] t s) : Prescribes g t .lineComment s
  | blockComment {d : Delimiters} {s : Text} (mem : d ∈ g.blockComment)
      (here : d.opening.text <+: t) (through : Through d.closing.text t s) :
      Prescribes g t .blockComment s
  | stringLiteral {d : Delimiters} {body s : Text} (mem : d ∈ g.string)
      (here : t = d.opening.text ++ body) (through : Through d.closing.text body s) :
      Prescribes g t .stringLiteral (d.opening.text ++ s)
  | symbol {w : Text} (mem : w ∈ g.symbols.words) (here : w <+: t)
      (longest : ∀ v ∈ g.symbols.words, v <+: t → v.length ≤ w.length) :
      Prescribes g t .symbol w
  | run {c : Char} (here : [c] <+: t) : Prescribes g t .run [c]

structure Cuts (g : Grammar) (t : Text) (s : Segment) : Prop where
  prescribed : g.Prescribes t s.rule s.text
  first : ∀ rule : Rule, rule.rank < s.rule.rank → ¬g.Applies t rule

inductive Segmentation (g : Grammar) : Text → List Segment → Prop
  | nil : Segmentation g [] []
  | cons {s : Segment} {t u : Text} {ss : List Segment} (cuts : g.Cuts t s)
      (split : t = s.text ++ u) (rest : Segmentation g u ss) : Segmentation g t (s :: ss)

def delimiters? (g : Grammar) : Construct → Option Delimiters
  | .stringLiteral => g.string
  | .blockComment => g.blockComment

-- The construct that a segment leaves open, if any: the closing marker of a block comment is looked
-- for from its first character on, that of a string literal after its opening marker.
def leftOpen? (g : Grammar) (s : Segment) : Option Construct :=
  match s.rule with
  | .blockComment => g.blockComment.bind fun d =>
    if (find? d.closing.text s.text).isSome then none else some .blockComment
  | .stringLiteral => g.string.bind fun d =>
    if (find? d.closing.text (s.text.drop d.opening.text.length)).isSome then none
    else some .stringLiteral
  | _ => none

theorem leftOpen?_blockComment {g : Grammar} {d : Delimiters} (h : d ∈ g.blockComment) (t : Text) :
    g.leftOpen? ⟨.blockComment, t⟩ =
      if (find? d.closing.text t).isSome then none else some .blockComment := by
  simp [leftOpen?, Option.mem_def.mp h]

theorem leftOpen?_stringLiteral {g : Grammar} {d : Delimiters} (h : d ∈ g.string) (t : Text) :
    g.leftOpen? ⟨.stringLiteral, d.opening.text ++ t⟩ =
      if (find? d.closing.text t).isSome then none else some .stringLiteral := by
  simp [leftOpen?, Option.mem_def.mp h]

theorem rule_of_leftOpen?_eq_some {g : Grammar} {s : Segment} {construct : Construct}
    (h : g.leftOpen? s = some construct) : s.rule = construct.rule := by
  unfold leftOpen? at h
  split at h
  case h_1 hr =>
    have ⟨d, _, h⟩ := Option.bind_eq_some_iff.mp h
    split at h
    case isTrue => contradiction
    case isFalse => rw [hr, ← Option.some.inj h, Construct.rule]
  case h_2 hr =>
    have ⟨d, _, h⟩ := Option.bind_eq_some_iff.mp h
    split at h
    case isTrue => contradiction
    case isFalse => rw [hr, ← Option.some.inj h, Construct.rule]
  case h_3 => contradiction

theorem eq_stringLiteral_iff_of_leftOpen?_eq_some {g : Grammar} {s : Segment}
    {construct : Construct} (h : g.leftOpen? s = some construct) :
    construct = .stringLiteral ↔ ¬s.rule.isComment := by
  rw [rule_of_leftOpen?_eq_some h]
  cases construct <;> decide

namespace Prescribes

variable {g : Grammar} {t u s s₁ s₂ : Text} {rule : Rule}

theorem applies (h : g.Prescribes t rule s) : g.Applies t rule := by
  cases h
  case blank c hb hp => exact ⟨c, hb, hp⟩
  case lineComment m hm hp _ => exact ⟨m, hm, hp⟩
  case blockComment d hd hp _ => exact ⟨d, hd, hp⟩
  case stringLiteral d body _ hd ht _ => exact ⟨d, hd, body, ht.symm⟩
  case symbol hw hp _ => exact ⟨s, hw, hp⟩
  case run hp => exact hp.ne_nil (by simp)

theorem isPrefix (h : g.Prescribes t rule s) : s <+: t := by
  cases h
  case blank hp => exact hp
  case lineComment ht => exact ht.isPrefix
  case blockComment ht => exact ht.isPrefix
  case stringLiteral he ht => exact he ▸ (List.prefix_append_right_inj _).mpr ht.isPrefix
  case symbol hp _ => exact hp
  case run hp => exact hp

theorem ne_nil (h : g.Prescribes t rule s) : s ≠ [] := by
  cases h
  case blank => simp
  case lineComment m _ hp ht => exact ht.ne_nil (by simp) (hp.ne_nil m.ne_nil)
  case blockComment d _ hp ht => exact ht.ne_nil d.closing.ne_nil (hp.ne_nil d.opening.ne_nil)
  case stringLiteral d _ _ _ _ _ => simp [d.opening.ne_nil]
  case symbol hw _ _ => exact g.symbols.ne_nil _ hw
  case run => simp

theorem unique (h₁ : g.Prescribes t rule s₁) (h₂ : g.Prescribes t rule s₂) : s₁ = s₂ := by
  cases h₁ <;> cases h₂
  case blank.blank h₁ _ _ h₂ => exact eq_of_isPrefix_of_length_eq h₁ h₂ rfl
  case lineComment.lineComment h₁ _ _ _ h₂ => exact h₁.unique h₂
  case blockComment.blockComment d₁ m₁ _ h₁ d₂ m₂ _ h₂ =>
    cases Option.mem_unique m₁ m₂
    exact h₁.unique h₂
  case stringLiteral.stringLiteral d₁ _ _ m₁ e₁ h₁ d₂ _ _ m₂ e₂ h₂ =>
    cases Option.mem_unique m₁ m₂
    cases List.append_cancel_left (e₁.symm.trans e₂)
    rw [h₁.unique h₂]
  case symbol.symbol m₁ p₁ l₁ m₂ p₂ l₂ =>
    exact eq_of_isPrefix_of_length_eq p₁ p₂ (Nat.le_antisymm (l₂ _ m₁ p₁) (l₁ _ m₂ p₂))
  case run.run h₁ _ h₂ => exact eq_of_isPrefix_of_length_eq h₁ h₂ rfl

theorem stringLiteral_cases (h : g.Prescribes t .stringLiteral s) :
    ∃ d ∈ g.string, ∃ body, s = d.opening.text ++ body ∧
      (d.closing.text <:+ body ∧ g.leftOpen? ⟨.stringLiteral, s⟩ = none ∨
        ¬d.closing.text <:+: body ∧ g.leftOpen? ⟨.stringLiteral, s⟩ = some .stringLiteral) := by
  cases h
  case stringLiteral d rest body hd he ht =>
    refine ⟨d, hd, body, rfl, ?_⟩
    simp only [leftOpen?_stringLiteral hd, find?_isSome_iff]
    cases ht.isSuffix_or
    case inl hc => exact .inl ⟨hc, if_pos hc.isInfix⟩
    case inr hc =>
      have ⟨hn, hb⟩ := hc
      subst hb
      exact .inr ⟨hn, if_neg hn⟩

theorem blockComment_cases (h : g.Prescribes t .blockComment s) :
    ∃ d ∈ g.blockComment,
      (d.closing.text <:+ s ∧ g.leftOpen? ⟨.blockComment, s⟩ = none ∨
        ¬d.closing.text <:+: t ∧ g.leftOpen? ⟨.blockComment, s⟩ = some .blockComment) := by
  cases h
  case blockComment d hd hp ht =>
    refine ⟨d, hd, ?_⟩
    simp only [leftOpen?_blockComment hd, find?_isSome_iff]
    cases ht.isSuffix_or
    case inl hc => exact .inl ⟨hc, if_pos hc.isInfix⟩
    case inr hc =>
      have ⟨hn, hs⟩ := hc
      subst hs
      exact .inr ⟨hn, if_neg hn⟩

-- What lies behind the taken text can be cut off. Comments are apart: their opening marker may
-- reach beyond their end.
theorem of_isPrefix (h : g.Prescribes t rule s) (hr : ¬rule.isComment) (hs : s <+: u)
    (hu : u <+: t) : g.Prescribes u rule s := by
  cases h
  case blank hb _ => exact .blank hb hs
  case lineComment => exact absurd rfl hr
  case blockComment => exact absurd rfl hr
  case symbol hw _ hl => exact .symbol hw hs fun v hv hp => hl v hv (hp.trans hu)
  case run => exact .run hs
  case stringLiteral d body s hd he ht =>
    have ⟨v, hv⟩ := (List.prefix_append ..).trans hs
    rw [he, ← hv, List.prefix_append_right_inj] at hu
    rw [← hv, List.prefix_append_right_inj] at hs
    exact .stringLiteral hd hv.symm (ht.of_isPrefix hs hu)

end Prescribes

namespace Cuts

variable {g : Grammar} {t u : Text} {s s₁ s₂ : Segment} {construct : Construct}

theorem unique (h₁ : g.Cuts t s₁) (h₂ : g.Cuts t s₂) : s₁ = s₂ := by
  have hr : s₁.rule = s₂.rule := by
    apply Rule.rank_inj
    apply Nat.le_antisymm
    case h₁ => exact Nat.le_of_not_lt fun hl => h₁.first _ hl h₂.prescribed.applies
    case h₂ => exact Nat.le_of_not_lt fun hl => h₂.first _ hl h₁.prescribed.applies
  have ht := h₁.prescribed.unique (hr ▸ h₂.prescribed)
  cases s₁
  cases s₂
  simp_all

theorem blank {c : Char} (h : isBlank c) : g.Cuts (c :: t) ⟨.blank, [c]⟩ where
  prescribed := .blank h (by simp)
  first rule hr := by cases rule <;> simp [Rule.rank] at hr

theorem of_isPrefix (h : g.Cuts t s) (hr : ¬s.rule.isComment) (hs : s.text <+: u) (hu : u <+: t) :
    g.Cuts u s where
  prescribed := h.prescribed.of_isPrefix hr hs hu
  first rule hl ha := h.first rule hl (ha.mono hu)

theorem of_leftOpen?_eq_some (h : g.Cuts t s) (ho : g.leftOpen? s = some construct) :
    s.text = t ∧ ∃ d ∈ g.delimiters? construct, d.opening.text <+: t := by
  have ⟨rule, text⟩ := s
  have hp := h.prescribed
  simp only at hp
  cases hp
  case blockComment d hd hp ht =>
    simp only [leftOpen?_blockComment hd, find?_isSome_iff] at ho
    split at ho
    case isTrue => contradiction
    case isFalse hn =>
      cases Option.some.inj ho
      exact ⟨ht.eq_of_not_infix hn, d, hd, hp⟩
  case stringLiteral d body s hd hb ht =>
    simp only [leftOpen?_stringLiteral hd, find?_isSome_iff] at ho
    split at ho
    case isTrue => contradiction
    case isFalse hn =>
      cases Option.some.inj ho
      exact ⟨by rw [hb, ht.eq_of_not_infix hn], d, hd, body, hb.symm⟩
  all_goals contradiction

end Cuts

namespace Segmentation

variable {g : Grammar} {t : Text} {s : Segment} {ss ss₁ ss₂ : List Segment}

theorem concat_eq (h : g.Segmentation t ss) : Segment.concat ss = t := by
  induction h
  case nil => rfl
  case cons he _ ih => simp [he, ih]

theorem ne_nil (h : g.Segmentation t ss) (hs : s ∈ ss) : s.text ≠ [] := by
  induction h
  case nil => contradiction
  case cons c _ _ ih =>
    cases List.mem_cons.mp hs
    case inl hs => exact hs ▸ c.prescribed.ne_nil
    case inr hs => exact ih hs

theorem eq_nil_iff (h : g.Segmentation t ss) : t = [] ↔ ss = [] := by
  cases h
  case nil => simp
  case cons c he => simp [he, c.prescribed.ne_nil]

theorem cuts (h : g.Segmentation t (s :: ss)) : g.Cuts t s := by
  cases h
  case cons c _ _ => exact c

theorem unique (h₁ : g.Segmentation t ss₁) (h₂ : g.Segmentation t ss₂) : ss₁ = ss₂ := by
  induction h₁ generalizing ss₂
  case nil => exact (h₂.eq_nil_iff.mp rfl).symm
  case cons s₁ t u₁ ss₁ c₁ e₁ r₁ ih =>
    cases h₂
    case nil => exact absurd e₁ (by simp [c₁.prescribed.ne_nil])
    case cons s₂ u₂ ss₂ r₂ c₂ e₂ =>
      cases c₁.unique c₂
      cases List.append_cancel_left (e₁.symm.trans e₂)
      rw [ih r₂]

theorem of_append (h : g.Segmentation t (ss₁ ++ ss₂)) :
    g.Segmentation (Segment.concat ss₂) ss₂ := by
  induction ss₁ generalizing t
  case nil => exact h.concat_eq ▸ h
  case cons s ss₁ ih =>
    cases h
    case cons r => exact ih r

theorem of_append_left (h : g.Segmentation t (ss₁ ++ ss₂)) (hs : ∀ s ∈ ss₁, ¬s.rule.isComment) :
    g.Segmentation (Segment.concat ss₁) ss₁ := by
  induction ss₁ generalizing t
  case nil => exact .nil
  case cons s ss₁ ih =>
    cases h
    case cons u c he r =>
      have hp : Segment.concat (s :: ss₁) <+: t := by
        rw [he, ← r.concat_eq]
        simp
      have hr := ih r fun s hm => hs s (by simp [hm])
      exact .cons (c.of_isPrefix (hs s (by simp)) (by simp) hp) Segment.concat_cons hr

theorem leftOpen?_eq_none (h : g.Segmentation t (ss₁ ++ ss₂)) (hn : ss₂ ≠ []) (hs : s ∈ ss₁) :
    g.leftOpen? s = none := by
  induction ss₁ generalizing t
  case nil => contradiction
  case cons s₁ ss₁ ih =>
    cases h
    case cons u c he r =>
      cases List.mem_cons.mp hs
      case inr hs => exact ih r hs
      case inl hs =>
        by_contra ho
        have ⟨_, ho⟩ := Option.ne_none_iff_exists'.mp ho
        have ⟨hu, _⟩ := c.of_leftOpen?_eq_some (hs ▸ ho)
        rw [he, List.self_eq_append_right] at hu
        exact hn (List.append_eq_nil_iff.mp (r.eq_nil_iff.mp hu)).2

end Segmentation
end Grammar
end LexicalScan
