import LexicalScan.Proofs.Segmentation

namespace LexicalScan

def Rule.isLexical : Rule → Bool
  | blank | lineComment | blockComment => false
  | stringLiteral | symbol | run => true

theorem Rule.isLexical_iff {rule : Rule} (h : rule ≠ .run) :
    rule.isLexical ↔ rule = .stringLiteral ∨ rule = .symbol := by
  cases rule <;> simp_all [isLexical]

theorem Rule.not_isComment_of_isLexical {rule : Rule} (h : rule.isLexical) : ¬rule.isComment := by
  cases rule <;> simp_all [isLexical, isComment]

namespace Segment

variable {s s₁ s₂ : Segment} {ss ss₁ ss₂ ps₁ ps₂ : List Segment}

def joins (s₁ s₂ : Segment) : Bool :=
  s₁.rule = .run && s₂.rule = .run

def merge (block : List Segment) : Segment where
  rule := (block.head?.map rule).getD .run
  text := concat block

-- The segments with each longest row of runs merged.
def pieces (segments : List Segment) : List Segment :=
  (segments.splitBy joins).map merge

theorem concat_map_merge {blocks : List (List Segment)} :
    concat (blocks.map merge) = concat blocks.flatten := by
  induction blocks
  case nil => rfl
  case cons ih => simp [ih, merge]

@[simp]
theorem concat_pieces : concat (pieces ss) = concat ss := by
  simp [pieces, concat_map_merge]

theorem text_ne_nil_of_mem_pieces (h : ∀ s ∈ ss, s.text ≠ []) (hs : s ∈ pieces ss) :
    s.text ≠ [] := by
  have ⟨block, hb, he⟩ := List.mem_map.mp hs
  have ⟨r, hr⟩ := List.exists_mem_of_ne_nil block (List.ne_nil_of_mem_splitBy hb)
  have hm : r ∈ ss := by
    rw [← List.flatten_splitBy joins ss]
    exact List.mem_flatten_of_mem hb hr
  intro hn
  rw [← he, merge, concat, List.flatMap_eq_nil_iff] at hn
  exact h r hm (hn r hr)

@[simp]
theorem pieces_nil : pieces [] = [] :=
  rfl

theorem pieces_append_cons (h : s.rule ≠ .run) :
    pieces (ss₁ ++ s :: ss₂) = pieces ss₁ ++ s :: pieces ss₂ := by
  have hl : (ss₁ ++ s :: ss₂).splitBy joins = ss₁.splitBy joins ++ (s :: ss₂).splitBy joins :=
    List.splitBy_append_cons ss₂ fun _ _ => by simp [joins, h]
  have hr : ([s] ++ ss₂).splitBy joins = [s].splitBy joins ++ ss₂.splitBy joins :=
    List.splitBy_append fun r hr _ _ => by simp_all [joins]
  have hs : [s].splitBy joins = [[s]] := List.splitBy_of_isChain (by simp) (by simp)
  simp only [List.singleton_append] at hr
  simp [pieces, hl, hr, hs, merge]

theorem pieces_of_runs (h : ∀ s ∈ ss, s.rule = .run) (hn : ss ≠ []) :
    pieces ss = [⟨.run, concat ss⟩] := by
  have hc : ss.IsChain fun s₁ s₂ => joins s₁ s₂ :=
    List.isChain_iff_getElem.mpr fun i hi => by simp [joins, h]
  have ⟨s, ss', hs⟩ := List.exists_cons_of_ne_nil hn
  have hr : s.rule = .run := h s (by simp [hs])
  rw [pieces, List.splitBy_of_isChain hn hc]
  simp [merge, hs, hr]

theorem pieces_eq_nil_iff : pieces ss = [] ↔ ss = [] := by
  simp [pieces]

theorem filterMap_pieces {α : Type} {f : Segment → Option α}
    (hf : ∀ s : Segment, s.rule = .run → f s = none) :
    (pieces ss).filterMap f = ss.filterMap f := by
  have hr (rs : List Segment) (h : ∀ s ∈ rs, s.rule = .run) : (pieces rs).filterMap f = [] := by
    by_cases hn : rs = []
    case pos => simp [hn]
    case neg => simp [pieces_of_runs h hn, hf]
  suffices ∀ rs : List Segment, (∀ s ∈ rs, s.rule = .run) →
      (pieces (rs ++ ss)).filterMap f = ss.filterMap f from this [] (by simp)
  -- The row of runs in front of the segments is `rs`.
  induction ss
  case nil => simpa using hr
  case cons s ss ih =>
    intro rs h
    by_cases hs : s.rule = .run
    case pos =>
      have := ih (rs ++ [s]) (by simpa [or_imp, forall_and, hs] using h)
      simpa [hf s hs] using this
    case neg =>
      have hi : (pieces ss).filterMap f = ss.filterMap f := ih [] (by simp)
      simp [pieces_append_cons hs, hr rs h, List.filterMap_cons, hi]

theorem rule_eq_of_pieces_eq_singleton {p : Segment} (h : pieces ss = [p]) (hs : s ∈ ss) :
    s.rule = p.rule := by
  by_cases hr : ∀ r ∈ ss, r.rule = .run
  case pos =>
    rw [pieces_of_runs hr (List.ne_nil_of_mem hs)] at h
    rw [hr s hs, ← (List.cons.inj h).1]
  case neg =>
    -- A segment that is no run is a piece of its own, and so the only one.
    have ⟨r, hm, hr⟩ : ∃ r ∈ ss, r.rule ≠ .run := by simpa using hr
    have ⟨ss₁, ss₂, he⟩ := List.append_of_mem hm
    rw [he, pieces_append_cons hr, List.append_eq_singleton_iff] at h
    simp only [List.cons.injEq, pieces_eq_nil_iff, List.cons_ne_nil, and_false, or_false] at h
    rw [he, h.1, h.2.2] at hs
    rw [List.mem_singleton.mp hs, h.2.1]

theorem exists_mem_pieces (hs : s ∈ ss) : ∃ p ∈ pieces ss, p.rule = s.rule := by
  rw [← List.flatten_splitBy joins ss] at hs
  have ⟨block, hb, hs⟩ := List.mem_flatten.mp hs
  have hp : pieces block = [merge block] := by
    rw [pieces, List.splitBy_of_isChain (List.ne_nil_of_mem hs) (List.isChain_of_mem_splitBy hb),
      List.map_singleton]
  exact ⟨merge block, List.mem_map_of_mem hb, (rule_eq_of_pieces_eq_singleton hp hs).symm⟩

theorem exists_of_pieces_eq_append (h : pieces ss = ps₁ ++ ps₂) :
    ∃ ss₁ ss₂, ss = ss₁ ++ ss₂ ∧ pieces ss₁ = ps₁ ∧ pieces ss₂ = ps₂ := by
  have ⟨bs₁, bs₂, hb, h₁, h₂⟩ := List.map_eq_append_iff.mp h
  have ⟨hf, hn, hc, hd⟩ := List.splitBy_eq_iff.mp hb
  refine ⟨bs₁.flatten, bs₂.flatten, by simpa using hf, ?_, ?_⟩
  · rw [pieces, List.splitBy_flatten, h₁]
    · exact fun h => hn (List.mem_append_left _ h)
    · exact fun b hb => hc b (List.mem_append_left _ hb)
    · exact hd.left_of_append
  · rw [pieces, List.splitBy_flatten, h₂]
    · exact fun h => hn (List.mem_append_right _ h)
    · exact fun b hb => hc b (List.mem_append_right _ hb)
    · exact hd.right_of_append

def lexicalPieces (segments : List Segment) : List Segment :=
  (pieces segments).filter (·.rule.isLexical)

theorem lexicalPieces_ne_nil (hs : s ∈ ss) (hl : s.rule.isLexical) : lexicalPieces ss ≠ [] := by
  have ⟨p, hp, hr⟩ := exists_mem_pieces hs
  exact List.ne_nil_of_mem (List.mem_filter.mpr ⟨hp, hr ▸ hl⟩)

theorem lexicalPieces_append_cons (h : s.rule ≠ .run) :
    lexicalPieces (ss₁ ++ s :: ss₂) =
      lexicalPieces ss₁ ++ (if s.rule.isLexical then [s] else []) ++ lexicalPieces ss₂ := by
  simp only [lexicalPieces, pieces_append_cons h, List.filter_append, List.filter_cons]
  split <;> simp

end Segment

-- A segment and the text before it in the source.
structure Placed where
  before : Text
  segment : Segment
  deriving DecidableEq

namespace Placed

open Segment

variable {before after : Text} {ss ss₁ ss₂ : List Segment} {x : Placed} {xs ys : List Placed}

def inRow (before : Text) : List Segment → List Placed
  | [] => []
  | s :: ss => ⟨before, s⟩ :: inRow (before ++ s.text) ss

def behind (before : Text) (x : Placed) : Placed :=
  { x with before := before ++ x.before }

@[simp]
theorem inRow_append :
    inRow before (ss₁ ++ ss₂) = inRow before ss₁ ++ inRow (before ++ concat ss₁) ss₂ := by
  induction ss₁ generalizing before
  case nil => simp [inRow]
  case cons ih => simp [inRow, ih]

@[simp]
theorem map_segment_inRow : (inRow before ss).map segment = ss := by
  induction ss generalizing before
  case nil => rfl
  case cons ih => simp [inRow, ih]

theorem inRow_append_before :
    inRow (before ++ after) ss = (inRow after ss).map (behind before) := by
  induction ss generalizing after
  case nil => rfl
  case cons ih => simp [inRow, behind, ih]

theorem inRow_behind : inRow before ss = (inRow [] ss).map (behind before) := by
  simpa using @inRow_append_before before [] ss

theorem exists_of_inRow_eq_append (h : inRow before ss = xs ++ ys) :
    ∃ ss₁ ss₂, ss = ss₁ ++ ss₂ ∧ inRow before ss₁ = xs ∧ inRow (before ++ concat ss₁) ss₂ = ys := by
  induction ss generalizing before xs
  case nil =>
    have ⟨hx, hy⟩ := List.append_eq_nil_iff.mp h.symm
    exact ⟨[], [], rfl, by simp [hx, inRow], by simp [hy, inRow]⟩
  case cons s ss ih =>
    cases xs
    case nil => exact ⟨[], s :: ss, rfl, rfl, by simpa using h⟩
    case cons x xs =>
      have ⟨hx, hr⟩ := List.cons.inj h
      have ⟨ss₁, ss₂, he, h₁, h₂⟩ := ih hr
      exact ⟨s :: ss₁, ss₂, by simp [he], by simp [inRow, hx, h₁], by simpa using h₂⟩

theorem exists_of_mem_inRow (h : x ∈ inRow before ss) :
    ∃ ss₁ ss₂, ss = ss₁ ++ x.segment :: ss₂ ∧ x.before = before ++ concat ss₁ := by
  have ⟨xs, ys, he⟩ := List.append_of_mem h
  have ⟨ss₁, ss₂, hs, _, h₂⟩ := exists_of_inRow_eq_append he
  cases ss₂
  case nil => simp [inRow] at h₂
  case cons s ss₂ =>
    have ⟨hx, _⟩ := List.cons.inj h₂
    exact ⟨ss₁, ss₂, by simp [hs, ← hx], by simp [← hx]⟩

theorem inRow_pairwise :
    (inRow before ss).Pairwise fun x y => x.before ++ x.segment.text <+: y.before := by
  induction ss generalizing before
  case nil => exact .nil
  case cons s ss ih =>
    refine .cons (fun y hy => ?_) ih
    have ⟨ss₁, _, _, hb⟩ := exists_of_mem_inRow hy
    simp [hb]

def lexical (before : Text) (segments : List Segment) : List Placed :=
  (inRow before (pieces segments)).filter (·.segment.rule.isLexical)

theorem map_segment_lexical : (lexical before ss).map segment = lexicalPieces ss := by
  rw [lexical, lexicalPieces, ← @map_segment_inRow before (pieces ss), List.filter_map]
  simp [Function.comp_def]

@[simp]
theorem lexical_nil : lexical before [] = [] :=
  rfl

theorem lexical_singleton {s : Segment} (h : s.rule ≠ .run) :
    lexical before [s] = if s.rule.isLexical then [⟨before, s⟩] else [] := by
  have hs : pieces [s] = [s] := @pieces_append_cons s [] [] h
  simp [lexical, hs, inRow, List.filter_cons]

theorem lexical_append_cons {s : Segment} (h : s.rule ≠ .run) :
    lexical before (ss₁ ++ s :: ss₂) =
      lexical before ss₁ ++ lexical (before ++ concat ss₁) [s] ++
        lexical (before ++ concat ss₁ ++ s.text) ss₂ := by
  rw [lexical_singleton h]
  simp only [lexical, pieces_append_cons h, inRow_append, inRow, List.filter_append,
    List.filter_cons, concat_pieces]
  split <;> simp

theorem lexical_append_append {bs : List Segment} (hb : ∀ s ∈ bs, ¬s.rule.isLexical)
    (hn : bs ≠ []) :
    lexical before (ss₁ ++ bs ++ ss₂) =
      lexical before ss₁ ++ lexical (before ++ concat ss₁ ++ concat bs) ss₂ := by
  induction bs generalizing before ss₁
  case nil => contradiction
  case cons b bs ih =>
    have hl : ¬b.rule.isLexical := hb b (by simp)
    have hr : b.rule ≠ .run := fun hr => hl (by simp [hr, Rule.isLexical])
    rw [List.append_assoc, List.cons_append, lexical_append_cons hr, lexical_singleton hr,
      if_neg hl, List.append_nil]
    by_cases hs : bs = []
    case pos => simp [hs]
    case neg =>
      have := @ih (before ++ concat ss₁ ++ b.text) [] (fun s hs => hb s (by simp [hs])) hs
      simpa using this

theorem lexical_of_runs (h : ∀ s ∈ ss, s.rule = .run) (hn : ss ≠ []) :
    lexical before ss = [⟨before, .run, concat ss⟩] := by
  simp [lexical, pieces_of_runs h hn, inRow, Rule.isLexical]

theorem lexical_behind : lexical before ss = (lexical [] ss).map (behind before) := by
  rw [lexical, inRow_behind, List.filter_map, lexical]
  rfl

theorem isPrefix_of_mem_lexical (h : x ∈ lexical before ss) :
    x.before ++ x.segment.text <+: before ++ concat ss := by
  have ⟨ss₁, ss₂, hs, hb⟩ := exists_of_mem_inRow (List.mem_filter.mp h).1
  rw [← @concat_pieces ss, hs, hb]
  simp

-- Where a lexical piece begins, the segments are split, and the pieces from there on are those of
-- the segments from there on.
theorem exists_of_lexical_eq_append (h : lexical before ss = xs ++ x :: ys) :
    ∃ ss₁ ss₂, ss = ss₁ ++ ss₂ ∧ x.before = before ++ concat ss₁ ∧
      lexical x.before ss₂ = x :: ys := by
  have ⟨us, vs, he, _, hv⟩ := List.filter_eq_append_iff.mp h
  have ⟨ws, zs, hw, _, hx, hz⟩ := List.filter_eq_cons_iff.mp hv
  rw [hw, ← List.append_assoc] at he
  have ⟨ps₁, ps₂, hp, _, h₂⟩ := exists_of_inRow_eq_append he
  have ⟨ss₁, ss₂, hs, h₃, h₄⟩ := exists_of_pieces_eq_append hp
  have hb : x.before = before ++ concat ss₁ := by
    rw [← concat_pieces, h₃]
    cases ps₂
    case nil => simp [inRow] at h₂
    case cons => simp [← (List.cons.inj h₂).1]
  refine ⟨ss₁, ss₂, hs, hb, ?_⟩
  rw [lexical, h₄, hb, ← @concat_pieces ss₁, h₃, h₂, List.filter_cons, if_pos hx, hz]

end Placed
end LexicalScan
