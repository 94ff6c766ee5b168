import LexicalScan.Proofs.Occurrence
import LexicalScan.Text.Quoted

namespace LexicalScan

namespace Text

variable {hidden : Char → Bool} {q r s t u v : Text} {a b c : Char} {m n base : Nat}

theorem append_cons_inj (hs : c ∉ s) (ht : c ∉ t) (h : s ++ c :: u = t ++ c :: v) :
    s = t ∧ u = v := by
  have hst : s <+: t := (isPrefix_append_cons_iff hs).mp ⟨c :: u, h⟩
  have hts : t <+: s := (isPrefix_append_cons_iff ht).mp ⟨c :: v, h.symm⟩
  have he := hst.eq_of_length_le hts.length_le
  subst he
  exact ⟨rfl, (List.cons.inj (List.append_cancel_left h)).2⟩

theorem isAlphanum_digitChar : ∀ d < 16, (Nat.digitChar d).isAlphanum := by
  decide

theorem digitChar_inj : ∀ d < 16, ∀ e < 16, Nat.digitChar d = Nat.digitChar e → d = e := by
  decide

theorem isAlphanum_of_mem_toDigits (h₁ : 1 < base) (h₂ : base ≤ 16) (h : c ∈ Nat.toDigits base n) :
    c.isAlphanum := by
  induction n using Nat.strongRecOn
  case ind n ih =>
    rw [Nat.toDigits_eq_if h₁] at h
    split at h
    case isTrue hn =>
      rw [List.mem_singleton.mp h]
      exact isAlphanum_digitChar n (by omega)
    case isFalse hn =>
      cases List.mem_append.mp h
      case inl h => exact ih (n / base) (Nat.div_lt_self (by omega) h₁) h
      case inr h =>
        have := Nat.mod_lt n (Nat.zero_lt_of_lt h₁)
        rw [List.mem_singleton.mp h]
        exact isAlphanum_digitChar (n % base) (by omega)

theorem not_mem_toDigits (h₁ : 1 < base) (h₂ : base ≤ 16) (hc : ¬c.isAlphanum) :
    c ∉ Nat.toDigits base n :=
  fun hm => hc (isAlphanum_of_mem_toDigits h₁ h₂ hm)

theorem newline_not_mem_decimal : '\n' ∉ Nat.toDigits 10 n :=
  not_mem_toDigits (by decide) (by decide) (by decide)

theorem toDigits_inj (h₁ : 1 < base) (h₂ : base ≤ 16)
    (h : Nat.toDigits base m = Nat.toDigits base n) : m = n := by
  have hs {d e : Char} {k : Nat} : [d] ≠ Nat.toDigits base k ++ [e] := fun he => by
    have hn : [] = Nat.toDigits base k := (List.append_singleton_inj.mp he).1
    exact Nat.toDigits_ne_nil hn.symm
  induction m using Nat.strongRecOn generalizing n
  case ind m ih =>
    rw [Nat.toDigits_eq_if h₁, @Nat.toDigits_eq_if base n h₁] at h
    split at h <;> split at h
    case isTrue.isTrue => exact digitChar_inj m (by omega) n (by omega) (List.singleton_inj.mp h)
    case isTrue.isFalse => exact absurd h hs
    case isFalse.isTrue => exact absurd h.symm hs
    case isFalse.isFalse =>
      have ⟨hd, hr⟩ := List.append_singleton_inj.mp h
      have hp := Nat.zero_lt_of_lt h₁
      have hm := Nat.mod_lt m hp
      have hn := Nat.mod_lt n hp
      have hr := digitChar_inj _ (by omega) _ (by omega) hr
      have hd := ih (m / base) (Nat.div_lt_self (by omega) h₁) hd
      rw [← Nat.div_add_mod m base, hd, hr, Nat.div_add_mod]

theorem toDigits_append_cons_inj (h₁ : 1 < base) (h₂ : base ≤ 16) (hc : ¬c.isAlphanum)
    (h : Nat.toDigits base m ++ c :: s = Nat.toDigits base n ++ c :: t) : m = n ∧ s = t := by
  have ⟨hd, hs⟩ := append_cons_inj (not_mem_toDigits h₁ h₂ hc) (not_mem_toDigits h₁ h₂ hc) h
  exact ⟨toDigits_inj h₁ h₂ hd, hs⟩

theorem decimal_append_cons_inj (hc : ¬c.isAlphanum)
    (h : decimal m ++ c :: s = decimal n ++ c :: t) : m = n ∧ s = t :=
  toDigits_append_cons_inj (by decide) (by decide) hc h

def letters : List (Char × Char) :=
  [('\x00', '0'), ('\t', 't'), ('\r', 'r'), ('\n', 'n'), ('\"', '\"'), ('\\', '\\')]

-- The form of a character inside double quotes. Those without an escape of their own that are
-- hidden are written by their code points.
inductive Escaped (hidden : Char → Bool) (c : Char) : Text → Prop
  | letter {l : Char} (mem : (c, l) ∈ letters) : Escaped hidden c ['\\', l]
  | code (noLetter : ∀ l, (c, l) ∉ letters) (isHidden : hidden c) :
      Escaped hidden c ("\\u\x7b".toList ++ Nat.toDigits 16 c.toNat ++ "\x7d".toList)
  | plain (noLetter : ∀ l, (c, l) ∉ letters) (shows : hidden c = false) : Escaped hidden c [c]

def IsQuoted (hidden : Char → Bool) (t q : Text) : Prop :=
  ∃ forms : List Text, List.Forall₂ (Escaped hidden) t forms ∧
    q = "\"".toList ++ forms.flatten ++ "\"".toList

theorem escaped_escape (hidden : Char → Bool) (c : Char) : Escaped hidden c (escape hidden c) := by
  unfold escape
  split
  case h_7 h₁ h₂ h₃ h₄ h₅ h₆ =>
    have hn : ∀ l, (c, l) ∉ letters := by simp_all [letters]
    split
    case isTrue hc => exact .code hn hc
    case isFalse hc => exact .plain hn (Bool.not_eq_true _ ▸ hc)
  all_goals exact .letter (by simp [letters])

theorem isQuoted_quoted (hidden : Char → Bool) (t : Text) : IsQuoted hidden t (quoted t hidden) :=
  ⟨t.map (escape hidden),
    List.forall₂_map_right_iff.mpr (List.forall₂_same.mpr fun c _ => escaped_escape hidden c),
    by simp [quoted, List.flatMap_def]⟩

namespace Escaped

theorem ne_of_noLetter {l : Char} (h : ∀ l, (a, l) ∉ letters) (hb : (b, l) ∈ letters) : a ≠ b :=
  fun he => h l (he ▸ hb)

-- A form tells its character and where it ends: only an escape begins with a backslash, and the
-- next character tells which escape it is.
theorem append_inj (h₁ : Escaped hidden a s) (h₂ : Escaped hidden b t) (h : s ++ u = t ++ v) :
    a = b ∧ u = v := by
  have hp {c : Char} (hc : ∀ l, (c, l) ∉ letters) : c ≠ '\\' :=
    ne_of_noLetter hc (l := '\\') (by decide)
  have hu : ∀ p ∈ letters, p.2 ≠ 'u' := by decide
  have hl : ∀ p ∈ letters, ∀ q ∈ letters, p.2 = q.2 → p.1 = q.1 := by decide
  cases h₁ <;> cases h₂ <;>
    simp only [String.reduceToList, List.cons_append, List.append_assoc, List.nil_append,
      List.cons.injEq, true_and] at h
  case plain.plain => exact h
  case plain.letter hn _ _ _ => exact absurd h.1 (hp hn)
  case plain.code hn _ _ _ => exact absurd h.1 (hp hn)
  case letter.plain hn _ => exact absurd h.1.symm (hp hn)
  case code.plain _ _ hn _ => exact absurd h.1.symm (hp hn)
  case letter.letter m₁ _ m₂ => exact ⟨hl _ m₁ _ m₂ h.1, h.2⟩
  case letter.code l m _ _ => exact absurd h.1 (hu _ m)
  case code.letter l m => exact absurd h.1.symm (hu _ m)
  case code.code =>
    have ⟨hn, hr⟩ := toDigits_append_cons_inj (by decide) (by decide) (by decide) h
    exact ⟨Char.toNat_inj.mp hn, hr⟩

theorem append_ne_quote (h : Escaped hidden c s) : s ++ u ≠ '\"' :: v := by
  intro he
  cases h
  case plain h _ => exact ne_of_noLetter h (l := '\"') (by decide) (List.cons.inj he).1
  case letter => exact absurd (List.cons.inj he).1 (by decide)
  case code => exact absurd (List.cons.inj he).1 (by decide)

theorem newline_not_mem (h : Escaped hidden c s) : '\n' ∉ s := by
  cases h
  case plain h _ => simpa using (ne_of_noLetter h (b := '\n') (l := 'n') (by decide)).symm
  case letter l h =>
    have hl : ∀ p ∈ letters, p.2 ≠ '\n' := by decide
    simpa using (hl _ h).symm
  case code =>
    have hn : '\n' ∉ Nat.toDigits 16 c.toNat :=
      not_mem_toDigits (by decide) (by decide) (by decide)
    simpa using hn

end Escaped

namespace IsQuoted

theorem append_inj (h₁ : IsQuoted hidden s q) (h₂ : IsQuoted hidden t r) (h : q ++ u = r ++ v) :
    s = t ∧ u = v := by
  obtain ⟨fs, hf, rfl⟩ := h₁
  obtain ⟨gs, hg, rfl⟩ := h₂
  simp only [String.reduceToList, List.cons_append, List.append_assoc, List.cons.injEq, true_and,
    List.nil_append] at h
  induction hf generalizing t gs
  case nil =>
    cases hg
    case nil => simpa using h
    case cons b g t gs hb _ =>
      rw [List.flatten_cons, List.append_assoc] at h
      exact absurd h.symm hb.append_ne_quote
  case cons a f s fs ha _ ih =>
    rw [List.flatten_cons, List.append_assoc] at h
    cases hg
    case nil => exact absurd h ha.append_ne_quote
    case cons b g t gs hb hg =>
      rw [List.flatten_cons, List.append_assoc] at h
      have ⟨hab, h⟩ := ha.append_inj hb h
      have ⟨hst, huv⟩ := ih gs hg h
      exact ⟨by rw [hab, hst], huv⟩

theorem newline_not_mem (h : IsQuoted hidden t q) : '\n' ∉ q := by
  obtain ⟨forms, hf, rfl⟩ := h
  have hn : '\n' ∉ forms.flatten := by
    induction hf
    case nil => simp
    case cons hc _ ih => simpa [hc.newline_not_mem] using ih
  simpa using hn

end IsQuoted
end Text
end LexicalScan
