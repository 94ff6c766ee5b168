import LexicalScan.Proofs.Walking

namespace LexicalScan

open Text

namespace Text

variable {s t target : Text} {c : Char} {b : UInt8} {i : Nat}

def utf8 (t : Text) : List UInt8 :=
  t.flatMap String.utf8EncodeChar

@[simp]
theorem utf8_nil : utf8 [] = [] :=
  rfl

@[simp]
theorem utf8_cons : utf8 (c :: t) = String.utf8EncodeChar c ++ utf8 t :=
  rfl

@[simp]
theorem utf8_append : utf8 (s ++ t) = utf8 s ++ utf8 t :=
  List.flatMap_append

@[simp]
theorem length_utf8 : (utf8 t).length = size t := by
  induction t
  case nil => rfl
  case cons c t ih => simp [ih]

theorem utf8_isPrefix_iff : utf8 s <+: utf8 t ↔ s <+: t := by
  constructor
  case mp =>
    rintro ⟨bs, h⟩
    apply List.isPrefix_of_utf8Encode_append_eq_utf8Encode bs.toByteArray
    simp only [List.utf8Encode, ← List.toByteArray_append]
    exact congrArg _ h
  case mpr =>
    rintro ⟨u, rfl⟩
    simp

theorem exists_of_isUTF8FirstByte (h : (utf8 t)[i]? = some b) (hb : b.IsUTF8FirstByte) :
    ∃ before after, t = before ++ after ∧ size before = i := by
  induction t generalizing i
  case nil => contradiction
  case cons c t ih =>
    by_cases hi : i < c.utf8Size
    case pos =>
      rw [utf8_cons, List.getElem?_append_left (by simpa using hi)] at h
      have ⟨_, he⟩ := List.getElem?_eq_some_iff.mp h
      rw [← he, UInt8.isUTF8FirstByte_getElem_utf8EncodeChar] at hb
      exact ⟨[], c :: t, rfl, hb.symm⟩
    case neg =>
      rw [utf8_cons, List.getElem?_append_right (by simpa using hi),
        String.length_utf8EncodeChar] at h
      have ⟨before, after, ht, hs⟩ := ih h
      exact ⟨c :: before, after, by simp [ht], by rw [size_cons, hs]; omega⟩

theorem isUTF8FirstByte_of_utf8_eq_cons {bs : List UInt8} (h : utf8 s = b :: bs) :
    b.IsUTF8FirstByte := by
  cases s
  case nil => contradiction
  case cons c s =>
    have hl : 0 < (String.utf8EncodeChar c).length := by simp [c.utf8Size_pos]
    have he : (utf8 (c :: s))[0]? = some b := by
      rw [h]
      rfl
    rw [utf8_cons, List.getElem?_append_left hl] at he
    rw [← (List.getElem?_eq_some_iff.mp he).2]
    exact UInt8.isUTF8FirstByte_getElem_zero_utf8EncodeChar

def OccursAt (target t : Text) (i : Nat) : Prop :=
  ∃ before, before ++ target <+: t ∧ size before = i

-- The bytes of a text occur only where its characters do: the first of them cannot stand within a
-- character.
theorem utf8_isPrefix_drop_iff (ht : target ≠ []) :
    utf8 target <+: (utf8 t).drop i ↔ OccursAt target t i := by
  constructor
  case mp =>
    intro h
    have ⟨b, bs, hb⟩ : ∃ b bs, utf8 target = b :: bs := by
      have ⟨c, s, he⟩ := List.exists_cons_of_ne_nil ht
      exact List.exists_cons_of_ne_nil (by simp [he, String.utf8EncodeChar_ne_nil])
    have hi : (utf8 t)[i]? = some b := by
      have ⟨_, hr⟩ := hb ▸ h
      rw [← List.head?_drop, ← hr]
      rfl
    obtain ⟨before, after, rfl, rfl⟩ :=
      exists_of_isUTF8FirstByte hi (isUTF8FirstByte_of_utf8_eq_cons hb)
    rw [utf8_append, List.drop_left' length_utf8, utf8_isPrefix_iff] at h
    exact ⟨before, (List.prefix_append_right_inj before).mpr h, rfl⟩
  case mpr =>
    rintro ⟨before, ⟨after, rfl⟩, rfl⟩
    rw [List.append_assoc, utf8_append, List.drop_left' length_utf8, utf8_isPrefix_iff]
    exact List.prefix_append ..

theorem getElem?_utf8_eq_some_iff (hc : String.utf8EncodeChar c = [b]) :
    (utf8 t)[i]? = some b ↔ OccursAt [c] t i := by
  rw [← utf8_isPrefix_drop_iff (List.cons_ne_nil c []), ← List.head?_drop, utf8_cons, utf8_nil, hc]
  cases (utf8 t).drop i <;> simp [eq_comm]

theorem count_utf8 (hc : String.utf8EncodeChar c = [b]) : (utf8 t).count b = t.count c := by
  induction t
  case nil => rfl
  case cons d t ih =>
    rw [utf8_cons, List.count_append, ih, List.count_cons, Nat.add_comm, Nat.add_right_inj]
    split
    case isTrue h => rw [beq_iff_eq.mp h, hc, List.count_singleton_self]
    case isFalse h =>
      rw [List.count_eq_zero]
      intro hb
      have ⟨i, hi⟩ := List.mem_iff_getElem?.mp hb
      have hd : (utf8 [d])[i]? = some b := by simpa using hi
      have ⟨before, hp, _⟩ := (getElem?_utf8_eq_some_iff hc).mp hd
      have := hp.subset (List.mem_append_right before (List.mem_singleton_self c))
      simp_all

def FindsFirst (p : Nat → Prop) : Option Nat → Prop
  | some i => p i ∧ ∀ j < i, ¬p j
  | none => ∀ j, ¬p j

def FindsLast (p : Nat → Prop) : Option Nat → Prop
  | some i => p i ∧ ∀ j > i, ¬p j
  | none => ∀ j, ¬p j

-- Ways to search for the first and for the last position of a byte, and for the first position of
-- several bytes in a row.
structure ByteSearch where
  first? : UInt8 → List UInt8 → Option Nat
  last? : UInt8 → List UInt8 → Option Nat
  find? : List UInt8 → List UInt8 → Option Nat
  findsFirst : ∀ b bs, FindsFirst (bs[·]? = some b) (first? b bs)
  findsLast : ∀ b bs, FindsLast (bs[·]? = some b) (last? b bs)
  findsNeedle : ∀ needle bs, FindsFirst (needle <+: bs.drop ·) (find? needle bs)

theorem findsFirst_find?_range {p : Nat → Prop} [DecidablePred p] {n : Nat}
    (hn : ∀ i, p i → ∃ j < n, p j) : FindsFirst p ((List.range n).find? (p ·)) := by
  cases h : (List.range n).find? (p ·)
  case some i =>
    have ⟨hp, _, hj⟩ := List.find?_range_eq_some.mp h
    exact ⟨of_decide_eq_true hp, by simpa using hj⟩
  case none =>
    intro i hi
    have ⟨j, hj, hp⟩ := hn i hi
    simpa [hp] using List.find?_range_eq_none.mp h j hj

theorem findsLast_find?_range {p : Nat → Prop} [DecidablePred p] {n : Nat}
    (hn : ∀ i, p i → i < n) : FindsLast p ((List.range n).reverse.find? (p ·)) := by
  cases h : (List.range n).reverse.find? (p ·)
  case some i =>
    have ⟨hp, after, before, hr, ha⟩ := List.find?_eq_some_iff_append.mp h
    refine ⟨of_decide_eq_true hp, fun j hj hpj => ?_⟩
    have hm : j ∈ after ++ i :: before := hr ▸ by simpa using hn j hpj
    have hd : (after ++ i :: before).Pairwise (· > ·) :=
      hr ▸ List.pairwise_reverse.mpr List.pairwise_lt_range
    have hb := (List.pairwise_cons.mp (List.pairwise_append.mp hd).2.1).1
    rcases List.mem_append.mp hm with hm | hm
    case inl => simpa [hpj] using ha j hm
    case inr =>
      rcases List.mem_cons.mp hm with rfl | hm
      case inl => exact absurd hj (lt_irrefl _)
      case inr => exact absurd (hb j hm) (lt_asymm hj)
  case none =>
    intro i hi
    simpa [hi] using List.find?_eq_none.mp h i (by simpa using hn i hi)

theorem FindsFirst.through {o : Option Nat} (h : FindsFirst (OccursAt target t) o) :
    ¬target <:+: t ∧ o = none ∨
    ∃ before, Through target t (before ++ target) ∧ o = some (size before) := by
  cases o
  case none => exact .inl ⟨fun ⟨before, after, ht⟩ => h _ ⟨before, ⟨after, ht⟩, rfl⟩, rfl⟩
  case some i =>
    obtain ⟨⟨before, ho, rfl⟩, hf⟩ := h
    refine .inr ⟨before, .found ho fun other hp => ?_, rfl⟩
    have hs : size before ≤ size other := Nat.le_of_not_lt fun hs => hf _ hs ⟨other, hp, rfl⟩
    have hb := (List.prefix_append before target).trans ho
    exact (isPrefix_of_size_le hb ((List.prefix_append other target).trans hp) hs).length_le

theorem FindsLast.split {o : Option Nat} (h : FindsLast (OccursAt [c] t) o) :
    c ∉ t ∧ o = none ∨
    ∃ before after, t = before ++ c :: after ∧ c ∉ after ∧ o = some (size before) := by
  cases o
  case none =>
    refine .inl ⟨fun hm => ?_, rfl⟩
    have ⟨before, after, ht⟩ := List.append_of_mem hm
    exact h _ ⟨before, ⟨after, by simp [ht]⟩, rfl⟩
  case some i =>
    obtain ⟨⟨before, ⟨after, rfl⟩, rfl⟩, hl⟩ := h
    refine .inr ⟨before, after, by simp, fun hm => ?_, rfl⟩
    obtain ⟨s, u, rfl⟩ := List.append_of_mem hm
    have := c.utf8Size_pos
    exact hl (size (before ++ c :: s)) (by simp; omega) ⟨before ++ c :: s, ⟨u, by simp⟩, rfl⟩

namespace ByteSearch

variable (search : ByteSearch)

def linear : ByteSearch where
  first? b bs := (List.range bs.length).find? (bs[·]? = some b)
  last? b bs := (List.range bs.length).reverse.find? (bs[·]? = some b)
  find? needle bs := (List.range (bs.length + 1)).find? (needle <+: bs.drop ·)
  findsFirst b bs :=
    findsFirst_find?_range fun i hi => ⟨i, (List.getElem?_eq_some_iff.mp hi).1, hi⟩
  findsLast b bs := findsLast_find?_range fun i hi => (List.getElem?_eq_some_iff.mp hi).1
  findsNeedle needle bs := by
    apply findsFirst_find?_range
    intro i hi
    by_cases hl : i < bs.length + 1
    case pos => exact ⟨i, hl, hi⟩
    case neg =>
      rw [List.drop_eq_nil_of_le (by omega), List.prefix_nil] at hi
      exact ⟨0, by simp, by simp [hi]⟩

theorem findsFirst_utf8 (hc : String.utf8EncodeChar c = [b]) (t : Text) :
    FindsFirst (OccursAt [c] t) (search.first? b (utf8 t)) := by
  simpa only [getElem?_utf8_eq_some_iff hc] using search.findsFirst b (utf8 t)

theorem findsLast_utf8 (hc : String.utf8EncodeChar c = [b]) (t : Text) :
    FindsLast (OccursAt [c] t) (search.last? b (utf8 t)) := by
  simpa only [getElem?_utf8_eq_some_iff hc] using search.findsLast b (utf8 t)

theorem findsNeedle_utf8 (target t : Text) :
    FindsFirst (OccursAt target t) (search.find? (utf8 target) (utf8 t)) := by
  have h := search.findsNeedle (utf8 target) (utf8 t)
  by_cases ht : target = []
  case neg => simpa only [utf8_isPrefix_drop_iff ht] using h
  case pos =>
    -- No bytes at all are found everywhere, within characters too, and so at the very start.
    subst ht
    generalize search.find? (utf8 []) (utf8 t) = o at h
    cases o
    case none => exact absurd List.nil_prefix (h 0)
    case some i =>
      cases i
      case zero => exact ⟨⟨[], List.nil_prefix, rfl⟩, by simp⟩
      case succ i => exact absurd List.nil_prefix (h.2 0 (by simp))

end ByteSearch

theorem slice?_front (s t : Text) : slice? (s ++ t) 0 (size s) = some s :=
  slice?_eq_some_iff.mpr ⟨[], t, rfl, rfl, rfl⟩

theorem slice?_back (s t : Text) : slice? (s ++ t) (size s) (size (s ++ t)) = some t :=
  slice?_eq_some_iff.mpr ⟨s, [], by simp, rfl, rfl⟩

theorem lastLine_append_newline (h : '\n' ∉ t) : lastLine (s ++ '\n' :: t) = t := by
  rw [← List.singleton_append, ← List.append_assoc, lastLine_append, if_neg h, lastLine_concat,
    if_pos rfl, List.nil_append]

end Text

-- A cursor that keeps the whole source and looks at its bytes. It gives no result where it would
-- cut a character in two.
structure ByteCursor where
  source : Text
  position : Position
  deriving DecidableEq

namespace ByteCursor

variable {c : ByteCursor} {search : ByteSearch} {s t target : Text}

def newline : UInt8 :=
  0x0a

def blankBytes : List UInt8 :=
  [0x20, 0x09, 0x0a, 0x0d, 0x0b, 0x0c]

def rest? (c : ByteCursor) : Option Text :=
  slice? c.source c.position.offset (size c.source)

def startsWith? (c : ByteCursor) (s : Text) : Option Bool := do
  let rest ← c.rest?
  return !s.isEmpty && (utf8 s).isPrefixOf (utf8 rest)

def isBlankHere (c : ByteCursor) : Bool :=
  (utf8 c.source)[c.position.offset]?.any blankBytes.contains

def addClamped (a : UInt32) (n : Nat) : UInt32 :=
  .ofNatClamp (a.toNat + (UInt32.ofNatClamp n).toNat)

def bump? (search : ByteSearch) (c : ByteCursor) (skipped : Text) : Option ByteCursor :=
  let offset := c.position.offset + (utf8 skipped).length
  match search.last? newline (utf8 skipped) with
  | some i => do
    let tail ← slice? skipped (i + 1) (utf8 skipped).length
    let line := addClamped c.position.line ((utf8 skipped).count newline)
    return { c with position := { offset, line, column := addClamped 1 tail.length } }
  | none =>
    let column := addClamped c.position.column skipped.length
    some { c with position := { c.position with offset, column } }

def skipToLineEnd? (search : ByteSearch) (c : ByteCursor) : Option ByteCursor := do
  let rest ← c.rest?
  let length := (search.first? newline (utf8 rest)).getD (utf8 rest).length
  c.bump? search (← slice? rest 0 length)

def skipTo? (search : ByteSearch) (c : ByteCursor) (target : Text) :
    Option (Bool × ByteCursor) := do
  let rest ← c.rest?
  match search.find? (utf8 target) (utf8 rest) with
  | some i => return (true, ← c.bump? search (← slice? rest 0 (i + (utf8 target).length)))
  | none => return (false, ← c.bump? search rest)

theorem rest?_eq (s : Text) (hs : c.source = s ++ t) (ho : c.position.offset = size s) :
    c.rest? = some t := by
  rw [rest?, hs, ho]
  exact slice?_back s t

theorem startsWith?_eq (hr : c.rest? = some t) (s : Text) :
    c.startsWith? s = some (Text.startsWith t s) := by
  have h : (utf8 s).isPrefixOf (utf8 t) = s.isPrefixOf t := by
    rw [Bool.eq_iff_iff, List.isPrefixOf_iff_prefix, List.isPrefixOf_iff_prefix, utf8_isPrefix_iff]
  simp [startsWith?, hr, h, Text.startsWith]

theorem utf8EncodeChar_of_mem_blanks {d : Char} (h : d ∈ blanks) :
    String.utf8EncodeChar d = [d.toUInt8] := by
  simp only [blanks, List.mem_cons, List.not_mem_nil, or_false] at h
  rcases h with rfl | rfl | rfl | rfl | rfl | rfl <;> decide

theorem blankBytes_eq : blankBytes = blanks.map Char.toUInt8 := by
  decide

theorem isBlankHere_eq (s : Text) (hs : c.source = s ++ t) (ho : c.position.offset = size s) :
    c.isBlankHere = t.head?.any isBlank := by
  have hh : (utf8 c.source)[c.position.offset]? = (utf8 t)[0]? := by
    rw [hs, ho, utf8_append, List.getElem?_append_right length_utf8.le, length_utf8, Nat.sub_self]
  have hb {d : Char} (hd : d ∈ blanks) : (utf8 t)[0]? = some d.toUInt8 ↔ t.head? = some d := by
    rw [getElem?_utf8_eq_some_iff (utf8EncodeChar_of_mem_blanks hd)]
    constructor
    case mp =>
      rintro ⟨before, ⟨u, rfl⟩, hz⟩
      simp [size_eq_zero_iff.mp hz]
    case mpr =>
      intro h
      exact ⟨[], ⟨t.tail, by simpa using List.cons_head?_tail h⟩, rfl⟩
  rw [isBlankHere, hh, Bool.eq_iff_iff, Option.any_eq_true, Option.any_eq_true, blankBytes_eq]
  simp only [List.contains_iff_mem, List.mem_map, isBlank]
  constructor
  case mp =>
    rintro ⟨_, hd, d, hm, rfl⟩
    exact ⟨d, (hb hm).mp hd, hm⟩
  case mpr =>
    rintro ⟨d, hd, hm⟩
    exact ⟨_, (hb hm).mpr hd, d, hm, rfl⟩

-- It does not matter that the number is clamped before it is added.
theorem addClamped_eq (a : UInt32) (n : Nat) : addClamped a n = .ofNatClamp (a.toNat + n) := by
  by_cases hn : n < UInt32.size
  case pos => rw [addClamped, UInt32.toNat_ofNatClamp_of_lt hn]
  case neg =>
    have hn := Nat.le_of_not_lt hn
    have hs : UInt32.size ≤ a.toNat + n := by omega
    apply UInt32.toNat_inj.mp
    rw [UInt32.toNat_ofNatClamp_of_le hs, addClamped, UInt32.toNat_ofNatClamp_of_le hn]
    by_cases ha : a.toNat + (UInt32.size - 1) < UInt32.size
    case pos => rw [UInt32.toNat_ofNatClamp_of_lt ha]; omega
    case neg => rw [UInt32.toNat_ofNatClamp_of_le (by omega)]

theorem utf8EncodeChar_newline : String.utf8EncodeChar '\n' = [newline] := by
  decide

theorem bump?_eq (c : ByteCursor) (t : Text) :
    c.bump? search t = some { c with position := c.position.skip t } := by
  rw [bump?, length_utf8, count_utf8 utf8EncodeChar_newline]
  have h := (search.findsLast_utf8 utf8EncodeChar_newline t).split
  rcases h with ⟨hn, hf⟩ | ⟨before, after, ht, hn, hf⟩
  case inl => simp [hf, Position.skip, hn, addClamped_eq, List.count_eq_zero_of_not_mem hn]
  case inr =>
    have hs : slice? t (size before + 1) (size t) = some after := by
      have h := slice?_back (before ++ ['\n']) after
      rwa [size_append, List.append_assoc, List.singleton_append, ← ht] at h
    have hm : '\n' ∈ t := by simp [ht]
    have hl : lastLine t = after := ht ▸ lastLine_append_newline hn
    simp [hf, hs, hm, hl, Position.skip, addClamped_eq]

theorem getD_first?_newline (t : Text) :
    (search.first? newline (utf8 t)).getD (size t) = size (firstLine t) := by
  have h := (search.findsFirst_utf8 utf8EncodeChar_newline t).through
  rcases h with ⟨hn, hf⟩ | ⟨before, ht, hf⟩
  case inl =>
    have hl : firstLine t = t := by
      rw [firstLine, List.takeWhile_eq_self_iff]
      intro d hd
      exact bne_iff_ne.mpr fun he => hn ((List.singleton_infix_iff ..).mpr (he ▸ hd))
    rw [hf, hl, Option.getD_none]
  case inr =>
    have hl := ht.unique through_firstLine
    rcases @afterFirstLine_cases t with he | ⟨u, he⟩
    case inl =>
      have hm : '\n' ∈ firstLine t ++ (afterFirstLine t).take 1 := by simp [← hl]
      rw [he, List.take_nil, List.append_nil] at hm
      exact absurd hm newline_not_mem_firstLine
    case inr =>
      rw [he] at hl
      rw [hf, Option.getD_some, List.append_cancel_right hl]

theorem skipToLineEnd?_eq (hr : c.rest? = some t) :
    c.skipToLineEnd? search = some { c with position := c.position.skip (firstLine t) } := by
  have hs : slice? t 0 (size (firstLine t)) = some (firstLine t) := by
    have h := slice?_front (firstLine t) (afterFirstLine t)
    rwa [firstLine_append_afterFirstLine] at h
  simp [skipToLineEnd?, hr, getD_first?_newline, hs, bump?_eq]

theorem skipTo?_eq (hr : c.rest? = some t) (ht : Through target t s) :
    c.skipTo? search target =
      some ((Text.find? target t).isSome, { c with position := c.position.skip s }) := by
  rcases (search.findsNeedle_utf8 target t).through with ⟨hn, hf⟩ | ⟨before, hb, hf⟩
  case inl =>
    have ho : (Text.find? target t).isSome = false := by simpa using find?_eq_none_iff.mpr hn
    simp [skipTo?, hr, hf, bump?_eq, ho, ht.unique (.missing hn)]
  case inr =>
    have ho : (Text.find? target t).isSome :=
      find?_isSome_iff.mpr (hb.infix_iff.mp (List.suffix_append ..).isInfix)
    have hs : slice? t 0 (size before + size target) = some (before ++ target) := by
      have ⟨u, hu⟩ := hb.isPrefix
      rw [← size_append, ← hu]
      exact slice?_front ..
    simp [skipTo?, hr, hf, hs, bump?_eq, ho, ht.unique hb]

end ByteCursor

namespace Cursor

variable {source target t : Text} {c : Cursor}

def bytewise (source : Text) (c : Cursor) : ByteCursor where
  source
  position := c.position

theorem Reached.exists_before (h : Reached source c) :
    ∃ before, source = before ++ c.rest ∧ c.position.offset = size before := by
  apply h.invariant
  case start => exact ⟨[], rfl, rfl⟩
  case own =>
    rintro c command ⟨before, hb, ho⟩
    rcases c.run_cases command with ⟨t, ht⟩ | he | he
    case inl =>
      refine ⟨before ++ t, ?_, ?_⟩
      · rw [hb, ht.rest_eq, List.append_assoc]
      · rw [ht.passes.offset_eq, ho, size_append]
    case inr.inl => exact he ▸ ⟨before, hb, ho⟩
    case inr.inr => exact he ▸ ⟨before, hb, ho⟩

theorem position_skipTo (h : Through target c.rest t) :
    (c.skipTo target).position = c.position.skip t := by
  cases hf : find? target c.rest
  case some n => simp [skipTo, hf, skip, h.unique (.of_find?_eq_some hf)]
  case none => simp [skipTo, hf, skipToEnd, skip, h.unique (.of_find?_eq_none hf)]

theorem position_skipToLineEnd : c.skipToLineEnd.position = c.position.skip (firstLine c.rest) := by
  simp [skipToLineEnd, skip, ← List.prefix_iff_eq_take.mp firstLine_isPrefix]

-- Bytes are read as characters: each operation on bytes has a result, the one that the cursor has,
-- and that is told by the characters from here on.
structure ReadsCharacters (search : ByteSearch) (source : Text) (c : Cursor) : Prop where
  rest : (c.bytewise source).rest? = some c.rest
  startsWith : ∀ s, (c.bytewise source).startsWith? s = some (c.startsWith s) ∧
    (c.startsWith s ↔ s ≠ [] ∧ s <+: c.rest)
  skipTo : ∀ s,
    (c.bytewise source).skipTo? search s =
      some (c.occursAhead s, (c.skipTo s).bytewise source) ∧
    (c.occursAhead s ↔ s <:+: c.rest) ∧
    ∃ t, Through s c.rest t ∧ c.rest = t ++ (c.skipTo s).rest ∧
      (c.skipTo s).position.offset = c.position.offset + size t
  skipToLineEnd :
    (c.bytewise source).skipToLineEnd? search = some (c.skipToLineEnd.bytewise source) ∧
    ∃ t, '\n' ∉ t ∧ c.rest = t ++ c.skipToLineEnd.rest ∧
      (c.skipToLineEnd.rest = [] ∨ ∃ u, c.skipToLineEnd.rest = '\n' :: u) ∧
      c.skipToLineEnd.position.offset = c.position.offset + size t
  isBlankHere : (c.bytewise source).isBlankHere = c.isBlankHere ∧
    (c.isBlankHere ↔ ∃ d ∈ blanks, c.rest.head? = some d)

theorem reached_readsCharacters (search : ByteSearch) (h : Reached source c) :
    ReadsCharacters search source c := by
  have ⟨before, hs, ho⟩ := h.exists_before
  have hr : (c.bytewise source).rest? = some c.rest := ByteCursor.rest?_eq before hs ho
  constructor
  case rest => exact hr
  case startsWith => exact fun s => ⟨ByteCursor.startsWith?_eq hr s, startsWith_iff⟩
  case skipTo =>
    intro s
    have ⟨t, ht, hm⟩ := Moves.skipTo c s
    refine ⟨?_, find?_isSome_iff, t, ht, hm.rest_eq, hm.passes.offset_eq⟩
    rw [ByteCursor.skipTo?_eq hr ht, bytewise, bytewise, position_skipTo ht]
    rfl
  case skipToLineEnd =>
    have hm : c.Moves (firstLine c.rest) c.skipToLineEnd := .skipToLineEnd
    refine ⟨?_, _, newline_not_mem_firstLine, hm.rest_eq, ?_, hm.passes.offset_eq⟩
    · rw [ByteCursor.skipToLineEnd?_eq hr, bytewise, bytewise, position_skipToLineEnd]
    · rw [rest_skipToLineEnd]
      exact afterFirstLine_cases
  case isBlankHere =>
    refine ⟨ByteCursor.isBlankHere_eq before hs ho, ?_⟩
    rw [isBlankHere, current?, Option.any_eq_true]
    simp [isBlank, and_comm]

-- The characters share bytes: `é` is c3 a9, `©` is c2 a9 and `Ã` is c3 83.
theorem reached_readsCharacters_sharedBytes :
    let source := "Ãé\né©x".toList
    let s := (Session.start (.ofText source)).after run [.own .advance, .own .skipToLineEnd]
    let c := s.current
    Reached source c ∧
    (c.bytewise source).skipTo? .linear ['©'] = some (true, ⟨source, ⟨9, 2, 3⟩⟩) ∧
    ReadsCharacters .linear source c :=
  have h : Reached "Ãé\né©x".toList _ := Session.reached_after run _ _
  ⟨h, by decide, reached_readsCharacters .linear h⟩

end Cursor
end LexicalScan
