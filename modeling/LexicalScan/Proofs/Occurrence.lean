import Mathlib
import LexicalScan.Text.Line

namespace LexicalScan

namespace Text

variable {needle target s t u v w : Text} {c : Char} {i : Nat}

theorem size_le_of_isPrefix (h : s <+: t) : size s ≤ size t := by
  have ⟨u, hu⟩ := h
  simp [← hu]

theorem isPrefix_of_size_le (hs : s <+: u) (ht : t <+: u) (h : size s ≤ size t) : s <+: t := by
  cases List.prefix_or_prefix_of_prefix hs ht
  case inl hp => exact hp
  case inr hp =>
    have ⟨v, hv⟩ := hp
    have hz : size v = 0 := by
      rw [← hv, size_append] at h
      omega
    rw [← hv, size_eq_zero_iff.mp hz]
    simp

theorem size_reverse : size s.reverse = size s := by
  induction s
  case nil => rfl
  case cons c s ih => simp [ih, Nat.add_comm]

theorem isSuffix_of_size_le (hs : s <:+ u) (ht : t <:+ u) (h : size s ≤ size t) : s <:+ t := by
  rw [← List.reverse_prefix] at hs ht ⊢
  exact isPrefix_of_size_le hs ht (by rwa [size_reverse, size_reverse])

theorem eq_of_isPrefix_of_length_eq (hs : s <+: u) (ht : t <+: u) (h : s.length = t.length) :
    s = t :=
  (List.prefix_of_prefix_length_le hs ht h.le).eq_of_length h

theorem isPrefix_append_cons_iff (hc : c ∉ s) : s <+: t ++ c :: u ↔ s <+: t := by
  constructor
  case mp =>
    intro h
    cases List.prefix_or_prefix_of_prefix h (List.prefix_append t (c :: u))
    case inl hp => exact hp
    case inr hp =>
      have ⟨v, hv⟩ := hp
      rw [← hv, List.prefix_append_right_inj] at h
      cases v
      case nil => simp [← hv]
      case cons d v =>
        have hd := (List.cons_prefix_cons.mp h).1
        exact absurd (hv ▸ by simp [hd]) hc
  case mpr => exact fun h => h.trans (List.prefix_append ..)

theorem infix_append_cons_iff (hc : c ∉ s) : s <:+: t ++ c :: u ↔ s <:+: t ∨ s <:+: u := by
  induction t
  case nil =>
    rw [List.nil_append, List.infix_cons_iff, List.infix_nil]
    have h := @isPrefix_append_cons_iff s [] u c hc
    rw [List.nil_append, List.prefix_nil] at h
    rw [h]
  case cons d t ih =>
    have h := @isPrefix_append_cons_iff s (d :: t) u c hc
    rw [List.cons_append] at h
    rw [List.cons_append, List.infix_cons_iff, h, ih, List.infix_cons_iff, or_assoc]

theorem exists_isPrefix_append_cons_iff {α : Type} {p : α → Prop} {f : α → Text}
    (h : ∀ x, p x → c ∉ f x) :
    (∃ x, p x ∧ f x <+: t ++ c :: u) ↔ ∃ x, p x ∧ f x <+: t :=
  exists_congr fun x => and_congr_right fun hx => isPrefix_append_cons_iff (h x hx)

theorem find?_le_of_isPrefix (h : find? needle t = some i) (hs : s ++ needle <+: t) :
    i ≤ s.length := by
  induction t generalizing i s
  case nil =>
    have := (List.append_eq_nil_iff.mp (List.prefix_nil.mp hs)).2
    simp_all [find?_nil]
  case cons c t ih =>
    rw [find?_cons] at h
    split at h
    case isTrue => simp [← Option.some.inj h]
    case isFalse hn =>
      have ⟨j, hj, he⟩ := Option.map_eq_some_iff.mp h
      cases s
      case nil => exact absurd hs hn
      case cons d s =>
        have := ih hj (List.cons_prefix_cons.mp hs).2
        simp only [List.length_cons]
        omega

theorem find?_eq_none_iff : find? needle t = none ↔ ¬needle <:+: t := by
  induction t
  case nil => simp [find?_nil]
  case cons c t ih =>
    rw [find?_cons, List.infix_cons_iff]
    split
    case isTrue h => simp [h]
    case isFalse h => simp [h, ih]

theorem find?_isSome_iff : (find? needle t).isSome ↔ needle <:+: t := by
  have h := @find?_eq_none_iff needle t
  cases hf : find? needle t <;> simp_all

-- `s` reaches through the first occurrence of `target` in `t`, or to the end of `t` if there is
-- none.
inductive Through (target t : Text) : Text → Prop
  | found {before : Text} (occurs : before ++ target <+: t)
      (first : ∀ other, other ++ target <+: t → before.length ≤ other.length) :
      Through target t (before ++ target)
  | missing (absent : ¬target <:+: t) : Through target t t

namespace Through

theorem isPrefix : (Through target t s) → s <+: t
  | found occurs _ => occurs
  | missing _ => List.prefix_rfl

theorem ne_nil (h : Through target t s) (hg : target ≠ []) (ht : t ≠ []) : s ≠ [] := by
  cases h
  case found => simp [hg]
  case missing => exact ht

theorem unique (h₁ : Through target t u) (h₂ : Through target t v) : u = v := by
  cases h₁ <;> cases h₂
  case found.found s₁ o₁ f₁ s₂ o₂ f₂ =>
    have hl := Nat.le_antisymm (f₁ _ o₂) (f₂ _ o₁)
    exact eq_of_isPrefix_of_length_eq o₁ o₂ (by simp [hl])
  case missing.missing => rfl
  case found.missing s o f a =>
    exact absurd ((List.suffix_append ..).isInfix.trans o.isInfix) a
  case missing.found a s o f =>
    exact absurd ((List.suffix_append ..).isInfix.trans o.isInfix) a

theorem infix_iff (h : Through target t s) : target <:+: s ↔ target <:+: t := by
  cases h
  case missing => rfl
  case found o _ =>
    constructor
    case mp => exact fun h => h.trans o.isInfix
    case mpr => exact fun _ => (List.suffix_append ..).isInfix

theorem isSuffix_or (h : Through target t s) : target <:+ s ∨ ¬target <:+: t ∧ s = t := by
  cases h
  case found => exact .inl (List.suffix_append ..)
  case missing a => exact .inr ⟨a, rfl⟩

theorem eq_of_not_infix (h : Through target t s) (hn : ¬target <:+: s) : s = t := by
  cases h
  case missing => rfl
  case found => exact absurd (List.suffix_append ..).isInfix hn

theorem append (h : Through target t s) (hi : target <:+: s) : Through target (t ++ u) s := by
  cases h
  case missing a => exact absurd hi a
  case found v o f =>
    apply found (o.trans (List.prefix_append ..))
    intro w hw
    by_cases hl : v.length ≤ w.length
    case pos => exact hl
    case neg =>
      -- An occurrence before the first one would end before it as well, and so within `t`.
      have hp := List.prefix_of_prefix_length_le hw (o.trans (List.prefix_append ..))
        (by simp; omega)
      exact f w (hp.trans o)

theorem of_isPrefix (h : Through target t s) (hs : s <+: u) (hu : u <+: t) :
    Through target u s := by
  cases h
  case found v o f => exact found hs fun w hw => f w (hw.trans hu)
  case missing a =>
    cases hu.eq_of_length (Nat.le_antisymm hu.length_le hs.length_le)
    exact missing a

theorem of_find?_eq_some (h : find? target t = some i) :
    Through target t (t.take (i + target.length)) := by
  have ho := find?_eq_some_isPrefix h
  have he : t.take (i + target.length) = t.take i ++ target := by
    rw [List.take_add, ← List.prefix_iff_eq_take.mp ho]
  have hp : t.take i ++ target <+: t := he ▸ List.take_prefix ..
  have hi : (t.take i).length = i := by
    have := find?_le_of_isPrefix h hp
    have := List.length_take_le i t
    omega
  rw [he]
  apply found hp
  intro w hw
  rw [hi]
  exact find?_le_of_isPrefix h hw

theorem of_find?_eq_none (h : find? target t = none) : Through target t t :=
  missing (find?_eq_none_iff.mp h)

theorem append_cons (h : Through target u s) (ht : ¬target <:+: t) (hc : c ∉ target) :
    Through target (t ++ c :: u) (t ++ c :: s) := by
  cases h
  case missing hu =>
    apply missing
    rw [infix_append_cons_iff hc, not_or]
    exact ⟨ht, hu⟩
  case found v o f =>
    have he : t ++ c :: (v ++ target) = t ++ c :: v ++ target := by simp
    rw [he]
    apply found
    case occurs => simpa using o
    case first =>
      intro w hw
      have hp := (List.prefix_append w target).trans hw
      by_cases hl : w.length ≤ t.length
      case pos =>
        -- An occurrence that begins in `t` or with `c` would lie in `t`.
        have ⟨v', hv⟩ := List.prefix_of_prefix_length_le hp (List.prefix_append ..) hl
        rw [← hv, List.append_assoc, List.prefix_append_right_inj,
          isPrefix_append_cons_iff hc] at hw
        exact absurd (hw.isInfix.trans ⟨w, [], by simpa using hv⟩) ht
      case neg =>
        have ⟨v', hv⟩ :=
          List.prefix_of_prefix_length_le (List.prefix_append ..) hp (Nat.le_of_not_le hl)
        subst hv
        rw [List.append_assoc, List.prefix_append_right_inj] at hw
        cases v'
        case nil => simp at hl
        case cons d v' =>
          have := f v' (List.cons_prefix_cons.mp hw).2
          simp only [List.length_append, List.length_cons]
          omega

end Through

theorem exists_through (target t : Text) : ∃ s, Through target t s := by
  cases h : find? target t
  case none => exact ⟨t, .of_find?_eq_none h⟩
  case some => exact ⟨_, .of_find?_eq_some h⟩

theorem through_append_cons (h : c ∉ t) : Through [c] (t ++ c :: u) (t ++ [c]) := by
  apply Through.found
  case occurs => exact ⟨u, by simp⟩
  case first =>
    intro s hs
    by_contra hl
    have hp := List.prefix_of_prefix_length_le hs (List.prefix_append ..) (by simp; omega)
    exact h (hp.subset (by simp))

theorem firstLine_isPrefix : firstLine t <+: t :=
  List.takeWhile_prefix _

theorem newline_not_mem_firstLine : '\n' ∉ firstLine t := by
  intro h
  simpa using List.mem_takeWhile_imp h

theorem dropWhile_ne_cases : t.dropWhile (· != c) = [] ∨ ∃ u, t.dropWhile (· != c) = c :: u := by
  cases h : t.dropWhile (· != c)
  case nil => exact .inl rfl
  case cons d u =>
    have hd := List.head?_dropWhile_not (· != c) t
    rw [h] at hd
    simp_all

theorem afterFirstLine_cases : afterFirstLine t = [] ∨ ∃ u, afterFirstLine t = '\n' :: u :=
  dropWhile_ne_cases

theorem through_firstLine : Through ['\n'] t (firstLine t ++ (afterFirstLine t).take 1) := by
  have ht := @firstLine_append_afterFirstLine t
  cases @afterFirstLine_cases t
  case inl h =>
    have he : firstLine t = t := by rwa [h, List.append_nil] at ht
    have hn : '\n' ∉ t := he ▸ newline_not_mem_firstLine
    simpa [h, he] using Through.missing fun hi => hn (hi.subset (by simp))
  case inr h =>
    have ⟨u, hu⟩ := h
    have hf := through_append_cons (u := u) (@newline_not_mem_firstLine t)
    rw [hu] at ht ⊢
    rwa [ht] at hf

end Text
end LexicalScan
