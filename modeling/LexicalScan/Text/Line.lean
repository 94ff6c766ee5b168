import LexicalScan.Text.Basic

namespace LexicalScan

namespace Text

variable {s t : Text} {c : Char}

def firstLine (t : Text) : Text :=
  t.takeWhile (· != '\n')

def afterFirstLine (t : Text) : Text :=
  t.dropWhile (· != '\n')

@[simp]
theorem firstLine_append_afterFirstLine : firstLine t ++ afterFirstLine t = t :=
  List.takeWhile_append_dropWhile

theorem drop_length_firstLine : t.drop (firstLine t).length = afterFirstLine t := by
  have h := @List.drop_left _ (firstLine t) (afterFirstLine t)
  rwa [firstLine_append_afterFirstLine] at h

def lastLine (t : Text) : Text :=
  (t.reverse.takeWhile (· != '\n')).reverse

@[simp]
theorem lastLine_nil : lastLine [] = [] :=
  rfl

theorem lastLine_concat :
    lastLine (t ++ [c]) = if c = '\n' then [] else lastLine t ++ [c] := by
  by_cases hc : c = '\n' <;> simp [lastLine, hc]

theorem length_takeWhile_eq_iff {p : Char → Bool} :
    (t.takeWhile p).length = t.length ↔ ∀ c ∈ t, p c := by
  induction t
  case nil => simp
  case cons c t ih => cases hc : p c <;> simp [hc, ih]

theorem lastLine_append :
    lastLine (s ++ t) = if '\n' ∈ t then lastLine t else lastLine s ++ t := by
  simp only [lastLine, List.reverse_append, List.takeWhile_append, length_takeWhile_eq_iff]
  by_cases h : '\n' ∈ t
  case pos =>
    have hr : ¬∀ c ∈ t.reverse, c != '\n' := fun hr => by simpa using hr '\n' (by simpa using h)
    rw [if_neg hr, if_pos h]
  case neg =>
    have hr : ∀ c ∈ t.reverse, c != '\n' := fun c hc =>
      bne_iff_ne.mpr fun he => h (he ▸ List.mem_reverse.mp hc)
    rw [if_pos hr, if_neg h]
    simp

theorem length_lastLine_le : (lastLine t).length ≤ t.length := by
  simpa [lastLine] using (List.takeWhile_sublist (· != '\n') (l := t.reverse)).length_le

end Text
end LexicalScan
