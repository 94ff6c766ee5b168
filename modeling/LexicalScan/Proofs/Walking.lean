import LexicalScan.Cursor.Command
import LexicalScan.Proofs.Passage

namespace LexicalScan

open Text

namespace Text

variable {s t u : Text} {i j n : Nat}

def splitSize? : Text → Nat → Option (Text × Text)
  | t, 0 => some ([], t)
  | [], _ + 1 => none
  | c :: t, n + 1 =>
    if c.utf8Size ≤ n + 1 then (splitSize? t (n + 1 - c.utf8Size)).map fun (s, u) => (c :: s, u)
    else none

-- The text from the byte `i` to the byte `j`, if they are in range and stand between characters.
def slice? (t : Text) (i j : Nat) : Option Text := do
  let (front, _) ← splitSize? t j
  let (_, s) ← splitSize? front i
  return s

theorem splitSize?_eq_some_iff : splitSize? t n = some (s, u) ↔ t = s ++ u ∧ size s = n := by
  fun_induction splitSize? t n generalizing s
  case case1 t =>
    rw [Option.some.injEq, Prod.mk.injEq, size_eq_zero_iff]
    constructor
    case mp =>
      rintro ⟨rfl, rfl⟩
      exact ⟨rfl, rfl⟩
    case mpr =>
      rintro ⟨rfl, rfl⟩
      exact ⟨rfl, rfl⟩
  case case2 n => cases s <;> simp
  case case3 c t n hc ih =>
    rw [Option.map_eq_some_iff]
    constructor
    case mp =>
      rintro ⟨⟨s, u⟩, h, he⟩
      cases he
      have ⟨ht, hs⟩ := ih.mp h
      exact ⟨by rw [ht, List.cons_append], by rw [size_cons, hs]; omega⟩
    case mpr =>
      rintro ⟨ht, hs⟩
      cases s
      case nil => simp at hs
      case cons d s =>
        obtain ⟨rfl, hu⟩ := List.cons.inj ht
        rw [size_cons] at hs
        exact ⟨(s, u), ih.mpr ⟨hu, by omega⟩, rfl⟩
  case case4 c t n hc =>
    refine iff_of_false (by simp) ?_
    rintro ⟨ht, hs⟩
    cases s
    case nil => simp at hs
    case cons d s =>
      obtain ⟨rfl, _⟩ := List.cons.inj ht
      rw [size_cons] at hs
      omega

theorem slice?_eq_some_iff :
    slice? t i j = some s ↔
      ∃ before after, t = before ++ s ++ after ∧ i = size before ∧ j = size (before ++ s) := by
  simp only [slice?, Option.bind_eq_bind, Option.bind_eq_some_iff, Prod.exists,
    splitSize?_eq_some_iff, Option.pure_def, Option.some.injEq]
  constructor
  case mp =>
    rintro ⟨front, after, ⟨rfl, hj⟩, before, s, ⟨rfl, hi⟩, rfl⟩
    exact ⟨before, after, rfl, hi.symm, hj.symm⟩
  case mpr =>
    rintro ⟨before, after, rfl, rfl, rfl⟩
    exact ⟨before ++ s, after, ⟨rfl, rfl⟩, before, s, ⟨rfl, rfl⟩, rfl⟩

end Text

def Place.IsIn (source : Text) (p : Place) : Prop :=
  ∃ before, source = before ++ p.rest ∧ p.position = .after before

namespace Place.IsIn

variable {source t : Text} {p q : Place}

theorem passes (h : p.IsIn source) (hb : source.length < 2 ^ 32 - 1) (hr : p.rest = t ++ q.rest)
    (hp : p.position.Passes t q.position) : q.IsIn source := by
  have ⟨before, hs, ha⟩ := h
  have he : source = before ++ t ++ q.rest := by rw [hs, hr, List.append_assoc]
  exact ⟨before ++ t, he, (Position.tracks_after hb).passes ha ⟨_, he.symm⟩ hp⟩

theorem isAfter (h : p.IsIn source) (hb : source.length < 2 ^ 32 - 1) :
    ∃ before, source = before ++ p.rest ∧ p.position.IsAfter before := by
  have ⟨before, hs, ha⟩ := h
  have hl : before.length ≤ source.length := by simp [hs]
  exact ⟨before, hs, ha ▸ Position.isAfter_after (hl.trans_lt hb)⟩

theorem unique (hp : p.IsIn source) (hq : q.IsIn source)
    (h : p.position.offset = q.position.offset) : p = q := by
  have ⟨before, hs, ha⟩ := hp
  have ⟨before', hs', ha'⟩ := hq
  rw [ha, ha', Position.offset_after, Position.offset_after] at h
  have hb : before = before' := by
    apply (isPrefix_of_size_le ⟨_, hs.symm⟩ ⟨_, hs'.symm⟩ h.le).eq_of_length_le
    exact (isPrefix_of_size_le ⟨_, hs'.symm⟩ ⟨_, hs.symm⟩ h.ge).length_le
  cases p
  cases q
  simp_all

end Place.IsIn

namespace Cursor

-- A cursor and its mark have their places in the source, and what is pending lies between them.
structure IsIn (source : Text) (c : Cursor) : Prop where
  here : c.toPlace.IsIn source
  mark : ∀ m ∈ c.mark, m.IsIn source ∧ ∃ t, c.Pends m t

namespace IsIn

variable {source t : Text} {c d : Cursor} {m : Place}

theorem ofText (source : Text) : (Cursor.ofText source).IsIn source where
  here := ⟨[], rfl, show Position.start = .after [] by decide⟩
  mark := by simp [Cursor.ofText]

theorem moves (h : c.IsIn source) (hb : source.length < 2 ^ 32 - 1) (hm : c.Moves t d) :
    d.IsIn source where
  here := h.here.passes hb hm.rest_eq hm.passes
  mark m hd := by
    have ⟨hs, _, ht⟩ := h.mark m (hm.mark_eq ▸ hd)
    exact ⟨hs, _, ht.moves hm⟩

theorem setMark (h : c.IsIn source) : c.setMark.IsIn source where
  here := h.here
  mark m hm := by
    cases hm
    exact ⟨h.here, [], .setMark⟩

theorem clearMark (h : c.IsIn source) : c.clearMark.IsIn source where
  here := h.here
  mark := by simp [Cursor.clearMark]

theorem slice?_rest (h : c.IsIn source) :
    slice? source c.position.offset (size source) = some c.rest := by
  have ⟨before, hs, ha⟩ := h.here
  exact slice?_eq_some_iff.mpr ⟨before, [], by simpa using hs, by simp [ha], by rw [← hs]⟩

theorem slice?_pending (h : c.IsIn source) (hm : m ∈ c.mark) :
    ∃ t, slice? source m.position.offset c.position.offset = some t ∧
      c.pending? = some ⟨t, m.position⟩ := by
  have ⟨⟨before, hs, ha⟩, t, ht⟩ := h.mark m hm
  refine ⟨t, slice?_eq_some_iff.mpr ⟨before, c.rest, ?_, ?_, ?_⟩, ht.pending?_eq⟩
  · rw [hs, ht.rest_eq, List.append_assoc]
  · simp [ha]
  · simp [ht.passes.offset_eq, ha]

end IsIn

theorem run_cases (c : Cursor) (command : Command) :
    (∃ t, c.Moves t (c.run command).2) ∨ (c.run command).2 = c.setMark ∨
      (c.run command).2 = c.clearMark := by
  have stays : c.Moves [] c := ⟨rfl, .refl, rfl⟩
  cases command
  case advance => exact .inl ⟨_, .advance⟩
  case advanceBy n => exact .inl ⟨c.rest.take n, by simp [run], .foldl_step, rfl⟩
  case skipToLineEnd => exact .inl ⟨_, .skipToLineEnd⟩
  case skipTo target =>
    have ⟨t, _, ht⟩ := Moves.skipTo c target
    exact .inl ⟨t, ht⟩
  case setMark => exact .inr (.inl rfl)
  case clearMark => exact .inr (.inr rfl)
  case takeSpan => exact .inr (.inr rfl)
  all_goals exact .inl ⟨[], stays⟩

theorem IsIn.run {source : Text} {c : Cursor} (h : c.IsIn source) (hb : source.length < 2 ^ 32 - 1)
    (command : Command) : (c.run command).2.IsIn source := by
  rcases c.run_cases command with ⟨t, ht⟩ | he | he
  case inl => exact h.moves hb ht
  case inr.inl => exact he ▸ h.setMark
  case inr.inr => exact he ▸ h.clearMark

theorem Reached.isIn {source : Text} {c : Cursor} (h : Reached source c)
    (hb : source.length < 2 ^ 32 - 1) : c.IsIn source :=
  h.invariant (.ofText source) fun _ command hc => hc.run hb command

-- Cursors keep their place in a source, whichever commands they are given. Pending spans are cut
-- out of the source at the position of the mark.
structure KeepsPlace (source : Text) : Prop where
  session : ∀ commands, Reached source ((Session.start (.ofText source)).after run commands).current
  position : ∀ c, Reached source c →
    ∃ before, source = before ++ c.rest ∧ c.position.IsAfter before
  rest : ∀ c, Reached source c → slice? source c.position.offset (size source) = some c.rest
  mark : ∀ c, Reached source c → ∀ m ∈ c.mark, m.position.offset ≤ c.position.offset ∧
    ∃ before, source = before ++ m.rest ∧ m.position.IsAfter before
  span : ∀ c copy, Reached source c → ∀ m ∈ c.mark, ∃ t,
    slice? source m.position.offset c.position.offset = some t ∧
    Session.run run ⟨c, copy⟩ (.own .takeSpan) =
      (some (.span (some ⟨t, m.position⟩)), ⟨{ c with mark := none }, copy⟩)
  noSpan : ∀ c copy, Reached source c → c.mark = none →
    Session.run run ⟨c, copy⟩ (.own .takeSpan) = (some (.span none), ⟨c, copy⟩)
  unique : ∀ c d, Reached source c → Reached source d →
    c.position.offset = d.position.offset → c.position = d.position

theorem reached_keepsPlace {source : Text} (hb : source.length < 2 ^ 32 - 1) :
    KeepsPlace source := by
  constructor
  case session => exact Session.reached_after run _
  case position => exact fun c h => (h.isIn hb).here.isAfter hb
  case rest => exact fun c h => (h.isIn hb).slice?_rest
  case mark =>
    intro c h m hm
    have ⟨hs, t, ht⟩ := (h.isIn hb).mark m hm
    exact ⟨by simp [ht.passes.offset_eq], hs.isAfter hb⟩
  case span =>
    intro c copy h m hm
    have ⟨t, hs, ht⟩ := (h.isIn hb).slice?_pending hm
    exact ⟨t, hs, by simp [Session.run, run, ht, clearMark]⟩
  case noSpan =>
    intro c copy _ hm
    cases c
    simp_all [Session.run, run, pending?, clearMark]
  case unique =>
    intro c d hc hd ho
    exact congrArg Place.position ((hc.isIn hb).here.unique (hd.isIn hb).here ho)

-- A mark outlives skips and a copy, and the target contains a newline.
theorem reached_keepsPlace_skips :
    let source := "aé\n*/ü\n".toList
    let s := (Session.start (.ofText source)).after run
      [.own .advance, .own .setMark, .save, .own .skipToLineEnd, .restore,
        .own (.skipTo ['\n', '*']), .own (.advanceBy 2)]
    s.current.position = ⟨8, 2, 4⟩ ∧ s.current.pending? = some ⟨"é\n*/ü".toList, ⟨1, 1, 2⟩⟩ ∧
    source.length < 2 ^ 32 - 1 ∧ KeepsPlace source :=
  ⟨by decide, by decide, by decide, reached_keepsPlace (by decide)⟩

end Cursor
end LexicalScan
