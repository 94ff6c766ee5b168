import LexicalScan.Proofs.ByteMatching
import LexicalScan.Proofs.LongestMatch

namespace LexicalScan

open Text

namespace ByteCursor

variable {c : ByteCursor} {t : Text} {candidates : List Text} {best : Option Text}

def larger (best : Option Text) (t : Text) : Option Text :=
  match best with
  | none => some t
  | some b => if (utf8 t).length ≤ (utf8 b).length then some b else some t

def consider? (c : ByteCursor) (best : Option Text) (candidate : Text) : Option (Option Text) := do
  return if ← c.startsWith? candidate then larger best candidate else best

def longestMatch? (c : ByteCursor) (candidates : List Text) : Option (Option Text) :=
  candidates.foldlM c.consider? none

theorem larger_eq : larger best t = Cursor.larger best t := by
  cases best <;> simp [larger, Cursor.larger]

-- Whatever was found before, the best so far is the largest of what matched so far.
theorem foldlM_consider?_eq (hr : c.rest? = some t) :
    candidates.foldlM c.consider? best =
      some ((candidates.filter (Text.startsWith t)).foldl Cursor.larger best) := by
  induction candidates generalizing best
  case nil => rfl
  case cons s candidates ih =>
    rw [List.foldlM_cons, consider?, startsWith?_eq hr, List.filter_cons]
    cases hs : Text.startsWith t s
    case true => simpa [larger_eq] using ih
    case false => simpa using ih

end ByteCursor

namespace Cursor

variable {source : Text} {c : Cursor}

-- Of the candidates that match in the text from here on, the longest is picked.
structure PicksLongest (source : Text) (c : Cursor) : Prop where
  rest : slice? source c.position.offset (size source) = some c.rest
  bytes : ∀ candidates,
    (c.bytewise source).longestMatch? candidates = some (c.longestMatch? candidates)
  none_iff : ∀ candidates,
    c.longestMatch? candidates = none ↔ ∀ t ∈ candidates, t ≠ [] → ¬t <+: c.rest
  some_iff : ∀ candidates t,
    c.longestMatch? candidates = some t ↔ c.IsLongestMatch candidates t
  longest : ∀ candidates t, c.longestMatch? candidates = some t →
    ∀ s ∈ candidates, s ≠ [] → s <+: c.rest →
      (utf8 s).length ≤ (utf8 t).length ∧ s.length ≤ t.length
  perm : ∀ candidates others, candidates.Perm others →
    c.longestMatch? candidates = c.longestMatch? others
  duplicate : ∀ before t after, t ∈ before ++ after →
    c.longestMatch? (before ++ t :: after) = c.longestMatch? (before ++ after)

theorem reached_picksLongest (h : Reached source c) : PicksLongest source c := by
  have ⟨before, hs, ho⟩ := h.exists_before
  have hr : (c.bytewise source).rest? = some c.rest := ByteCursor.rest?_eq before hs ho
  constructor
  case rest => exact hr
  case bytes => exact fun candidates => ByteCursor.foldlM_consider?_eq hr
  case none_iff =>
    intro candidates
    rw [longestMatch?_eq_none_iff]
    simp only [startsWith, startsWith_iff, not_and]
  case some_iff => exact fun candidates t => longestMatch?_eq_some_iff
  case longest =>
    intro candidates t ht s hs hn hp
    have hst := (longestMatch?_eq_some_iff.mp ht).greatest s hs hn hp
    exact ⟨(utf8_isPrefix_iff.mpr hst).length_le, hst.length_le⟩
  case perm => exact fun candidates others hp => longestMatch?_congr fun t _ => hp.mem_iff
  case duplicate =>
    intro before t after ht
    apply longestMatch?_congr
    intro s _
    rw [List.perm_middle.mem_iff, List.mem_cons, or_iff_right_of_imp]
    exact fun hs => hs ▸ ht

-- Candidates that begin one another, in no order, one of them twice and one of them empty.
theorem reached_picksLongest_overlapping :
    let source := "x==é=".toList
    let c := ((Session.start (.ofText source)).after run [.own .advance]).current
    Reached source c ∧
    c.longestMatch? [['='], [], "==é".toList, ['=', '='], ['='], ['é']] = some "==é".toList ∧
    PicksLongest source c :=
  have h : Reached "x==é=".toList _ := Session.reached_after run _ [.own .advance]
  ⟨h, by decide, reached_picksLongest h⟩

end Cursor
end LexicalScan
