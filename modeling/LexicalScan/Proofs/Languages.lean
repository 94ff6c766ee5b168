import LexicalScan.Proofs.ByteMatching
import LexicalScan.Proofs.Settings

namespace LexicalScan

open Text

namespace Text

variable {s t : Text} {c : Char} {b : UInt8} {cs : List Char}

def oneOf (cs : List Char) : RegularExpression Char :=
  (cs.map .char).sum

def digits : List Char :=
  ['0', '1', '2', '3', '4', '5', '6', '7', '8', '9']

-- The regular expression `[0-9]+[.]?[0-9]*`.
def numeral : RegularExpression Char :=
  oneOf digits * .star (oneOf digits) * (1 + .char '.') * .star (oneOf digits)

theorem mem_matches'_oneOf : t ∈ (oneOf cs).matches' ↔ ∃ c ∈ cs, t = [c] := by
  induction cs
  case nil => simp [oneOf, RegularExpression.matches'_zero]
  case cons c cs ih =>
    rw [oneOf, List.map_cons, List.sum_cons, RegularExpression.matches'_add, Language.mem_add,
      ← oneOf, ih, RegularExpression.matches'_char]
    simp only [List.mem_cons, exists_eq_or_imp]
    rfl

theorem mem_matches'_star_oneOf : t ∈ (oneOf cs).star.matches' ↔ ∀ c ∈ t, c ∈ cs := by
  rw [RegularExpression.matches'_star, Language.mem_kstar]
  constructor
  case mp =>
    rintro ⟨ts, rfl, h⟩ c hc
    have ⟨t, ht, hc⟩ := List.mem_flatten.mp hc
    obtain ⟨d, hd, rfl⟩ := mem_matches'_oneOf.mp (h t ht)
    exact List.mem_singleton.mp hc ▸ hd
  case mpr =>
    intro h
    refine ⟨t.map fun c => [c], (List.flatMap_singleton' t).symm, fun s hs => ?_⟩
    have ⟨c, hc, he⟩ := List.mem_map.mp hs
    exact mem_matches'_oneOf.mpr ⟨c, h c hc, he.symm⟩

theorem mem_matches'_oneOf_mul_star :
    t ∈ (oneOf cs * .star (oneOf cs)).matches' ↔ t ≠ [] ∧ ∀ c ∈ t, c ∈ cs := by
  simp only [RegularExpression.matches'_mul, Language.mem_mul, mem_matches'_oneOf,
    mem_matches'_star_oneOf]
  constructor
  case mp =>
    rintro ⟨_, ⟨c, hc, rfl⟩, s, hs, rfl⟩
    exact ⟨by simp, List.forall_mem_cons.mpr ⟨hc, hs⟩⟩
  case mpr =>
    rintro ⟨hn, h⟩
    have ⟨c, s, he⟩ := List.exists_cons_of_ne_nil hn
    rw [he, List.forall_mem_cons] at h
    exact ⟨[c], ⟨c, h.1, rfl⟩, s, h.2, he.symm⟩

theorem mem_matches'_one_add_char :
    t ∈ (1 + .char c : RegularExpression Char).matches' ↔ t = [] ∨ t = [c] := by
  rw [RegularExpression.matches'_add, Language.mem_add, RegularExpression.matches'_epsilon,
    Language.mem_one, RegularExpression.matches'_char]
  rfl

structure IsNumeral (whole stop fraction : Text) : Prop where
  ne_nil : whole ≠ []
  whole : ∀ c ∈ whole, c ∈ digits
  stop : stop = [] ∨ stop = ['.']
  fraction : ∀ c ∈ fraction, c ∈ digits

theorem mem_matches'_numeral_iff :
    t ∈ numeral.matches' ↔
      ∃ whole stop fraction, t = whole ++ stop ++ fraction ∧ IsNumeral whole stop fraction := by
  rw [numeral, RegularExpression.matches'_mul, RegularExpression.matches'_mul]
  simp only [Language.mem_mul, mem_matches'_oneOf_mul_star, mem_matches'_one_add_char,
    mem_matches'_star_oneOf]
  constructor
  case mp =>
    rintro ⟨_, ⟨whole, ⟨hn, hw⟩, stop, hs, rfl⟩, fraction, hf, rfl⟩
    exact ⟨whole, stop, fraction, rfl, hn, hw, hs, hf⟩
  case mpr =>
    rintro ⟨whole, stop, fraction, rfl, hn, hw, hs, hf⟩
    exact ⟨_, ⟨whole, ⟨hn, hw⟩, stop, hs, rfl⟩, fraction, hf, rfl⟩

theorem isDigit_iff : c.isDigit ↔ c ∈ digits := by
  constructor
  case mp =>
    intro h
    have hc : 48 ≤ c.toNat ∧ c.toNat ≤ 57 := Char.isDigit_iff_toNat.mp h
    have hd : digits = (List.range' 48 10).map Char.ofNat := by decide
    rw [hd, List.mem_map]
    exact ⟨c.toNat, by rw [List.mem_range'_1]; omega, Char.ofNat_toNat c⟩
  case mpr =>
    have hd : digits.all Char.isDigit := by decide
    exact List.all_eq_true.mp hd c

theorem ne_stop_of_mem_digits (h : c ∈ digits) : c != '.' := by
  rw [bne_iff_ne]
  rintro rfl
  exact absurd h (by decide)

theorem isNumber_iff_isNumeral :
    isNumber t ↔
      let rest := t.dropWhile (· != '.')
      IsNumeral (t.takeWhile (· != '.')) (rest.take 1) (rest.drop 1) := by
  have hs : (t.dropWhile (· != '.')).take 1 = [] ∨ (t.dropWhile (· != '.')).take 1 = ['.'] := by
    rcases @dropWhile_ne_cases t '.' with he | ⟨u, he⟩
    case inl => simp [he]
    case inr => simp [he]
  simp only [isNumber, Bool.and_eq_true, Bool.not_eq_true', List.isEmpty_eq_false_iff,
    List.all_eq_true, isDigit_iff]
  constructor
  case mp => exact fun ⟨⟨hn, hw⟩, hf⟩ => ⟨hn, hw, hs, hf⟩
  case mpr => exact fun h => ⟨⟨h.ne_nil, h.whole⟩, h.fraction⟩

theorem IsNumeral.isNumber {whole stop fraction : Text} (h : IsNumeral whole stop fraction) :
    isNumber (whole ++ stop ++ fraction) := by
  have hw : ∀ c ∈ whole, c != '.' := fun c hc => ne_stop_of_mem_digits (h.whole c hc)
  have hf : ∀ c ∈ fraction, c != '.' := fun c hc => ne_stop_of_mem_digits (h.fraction c hc)
  rw [isNumber_iff_isNumeral, List.append_assoc]
  simp only [List.takeWhile_append_of_pos hw, List.dropWhile_append_of_pos hw]
  rcases h.stop with hs | hs
  case inl =>
    -- Without a full stop all the digits are before it.
    have hall : ∀ c ∈ whole ++ fraction, c ∈ digits :=
      List.forall_mem_append.mpr ⟨h.whole, h.fraction⟩
    rw [hs, List.nil_append, List.takeWhile_eq_self_iff.mpr hf, List.dropWhile_eq_nil_iff.mpr hf]
    exact ⟨by simp [h.ne_nil], hall, .inl rfl, by simp⟩
  case inr => simpa [hs] using { h with stop := .inr rfl }

theorem isNumber_iff : isNumber t ↔ t ∈ numeral.matches' := by
  rw [mem_matches'_numeral_iff]
  constructor
  case mp =>
    intro h
    refine ⟨_, _, _, ?_, isNumber_iff_isNumeral.mp h⟩
    rw [List.append_assoc, List.take_append_drop, List.takeWhile_append_dropWhile]
  case mpr =>
    rintro ⟨whole, stop, fraction, rfl, h⟩
    exact h.isNumber

def digitBytes : List UInt8 :=
  [0x30, 0x31, 0x32, 0x33, 0x34, 0x35, 0x36, 0x37, 0x38, 0x39]

theorem mem_digitBytes_iff : b ∈ digitBytes ↔ ∃ c ∈ digits, String.utf8EncodeChar c = [b] := by
  have hb : digitBytes.map ([·]) = digits.map String.utf8EncodeChar := by decide
  rw [← List.mem_map, ← hb, List.mem_map]
  simp

theorem mem_utf8_iff (hc : String.utf8EncodeChar c = [b]) : b ∈ utf8 t ↔ c ∈ t := by
  rw [← List.count_pos_iff, count_utf8 hc, List.count_pos_iff]

-- The bytes are those of digits if the characters are digits: no other character has such a byte.
theorem forall_mem_digitBytes_iff : (∀ b ∈ utf8 t, b ∈ digitBytes) ↔ ∀ c ∈ t, c ∈ digits := by
  constructor
  case mp =>
    intro h c hc
    have ⟨b, bs, hb⟩ := List.exists_cons_of_ne_nil (@String.utf8EncodeChar_ne_nil c)
    have hm : b ∈ String.utf8EncodeChar c := by simp [hb]
    have ⟨d, hd, he⟩ := mem_digitBytes_iff.mp (h b (List.mem_flatMap.mpr ⟨c, hc, hm⟩))
    have hdc : d ∈ [c] := (mem_utf8_iff he).mp (by simpa using hm)
    exact List.mem_singleton.mp hdc ▸ hd
  case mpr =>
    intro h b hb
    have ⟨c, hc, hb⟩ := List.mem_flatMap.mp hb
    have hd : digits.all fun c => (String.utf8EncodeChar c).all digitBytes.contains := by decide
    exact List.contains_iff_mem.mp (List.all_eq_true.mp (List.all_eq_true.mp hd c (h c hc)) b hb)

def splitOnce? (c : Char) (t : Text) : Option (Text × Text) :=
  (find? [c] t).map fun i => (t.take i, t.drop (i + 1))

theorem getD_splitOnce? (c : Char) (t : Text) :
    (splitOnce? c t).getD (t, []) = (t.takeWhile (· != c), (t.dropWhile (· != c)).drop 1) := by
  induction t
  case nil => simp [splitOnce?, find?_nil]
  case cons d t ih =>
    rw [splitOnce?] at ih
    rw [splitOnce?, find?_cons]
    by_cases h : d = c
    case pos => simp [h]
    case neg =>
      have hd : d != c := bne_iff_ne.mpr h
      have hp : ¬[c] <+: d :: t := fun hp => h (List.cons_prefix_cons.mp hp).1.symm
      simp only [if_neg hp, List.takeWhile_cons, List.dropWhile_cons, hd, if_true]
      cases hf : find? [c] t <;> simpa [hf] using ih

def isNumberBytewise (t : Text) : Bool :=
  let (whole, fraction) := (splitOnce? '.' t).getD (t, [])
  !whole.isEmpty && (utf8 whole).all digitBytes.contains
    && (utf8 fraction).all digitBytes.contains

theorem all_digitBytes_eq (t : Text) : (utf8 t).all digitBytes.contains = t.all Char.isDigit := by
  rw [Bool.eq_iff_iff, List.all_eq_true, List.all_eq_true]
  simp only [List.contains_iff_mem, isDigit_iff]
  exact forall_mem_digitBytes_iff

theorem isNumberBytewise_eq (t : Text) : isNumberBytewise t = isNumber t := by
  rw [isNumberBytewise, getD_splitOnce?]
  simp only [all_digitBytes_eq]
  rfl

theorem utf8_isSuffix_iff : utf8 s <:+ utf8 t ↔ s <:+ t := by
  constructor
  case mp =>
    rintro ⟨bs, h⟩
    by_cases hs : s = []
    case pos => simp [hs]
    case neg =>
      have hl : bs.length + size s = size t := by
        rw [← length_utf8, ← length_utf8, ← h, List.length_append]
      have hp : utf8 s <+: (utf8 t).drop bs.length := by simp [← h]
      obtain ⟨before, ⟨after, rfl⟩, hb⟩ := (utf8_isPrefix_drop_iff hs).mp hp
      have ha : size after = 0 := by
        simp only [size_append] at hl
        omega
      simp [size_eq_zero_iff.mp ha]
  case mpr =>
    rintro ⟨u, rfl⟩
    simp

end Text

def Delimiters.enclosesBytewise (d : Delimiters) (t : Text) : Bool :=
  (utf8 d.opening.text).length + (utf8 d.closing.text).length ≤ (utf8 t).length
    && (utf8 d.opening.text).isPrefixOf (utf8 t)
    && (utf8 d.closing.text).isSuffixOf (utf8 t)

theorem Delimiters.enclosesBytewise_eq (d : Delimiters) (t : Text) :
    d.enclosesBytewise t = d.encloses t := by
  rw [Bool.eq_iff_iff]
  simp only [enclosesBytewise, encloses, length_utf8, Bool.and_eq_true,
    List.isPrefixOf_iff_prefix, List.isSuffixOf_iff_suffix, utf8_isPrefix_iff, utf8_isSuffix_iff]

def IndexedGrammar.classify (i : IndexedGrammar) (t : Text) : Token.Kind :=
  if isNumberBytewise t then .number
  else if i.string.any (·.enclosesBytewise t) then .string
  else if i.isKeyword t then .keyword t
  else if i.isSymbol t then .symbol t
  else .identifier

theorem IndexedGrammar.Represents.classify_eq {i : IndexedGrammar} {g : Grammar}
    (h : i.Represents g) (t : Text) : i.classify t = g.classify t := by
  have hk : i.isKeyword t = g.isKeyword t := h.keywords.contains_eq t
  have hs : i.isSymbol t = g.isSymbol t := h.symbols.contains_eq t
  simp only [classify, Grammar.classify, isNumberBytewise_eq, Delimiters.enclosesBytewise_eq, hk,
    hs, h.string]

def Token.Kind.rank : Token.Kind → Nat
  | number => 1
  | string => 2
  | keyword _ => 3
  | symbol _ => 4
  | identifier => 5

namespace Grammar

variable {g : Grammar} {t : Text} {kind kind₁ kind₂ : Token.Kind}

-- Whether a text is in the language of a kind. Every text may be an identifier.
def Spells (g : Grammar) (t : Text) : Token.Kind → Prop
  | .number => t ∈ numeral.matches'
  | .string => ∃ d ∈ g.string, ∃ body, t = d.opening.text ++ body ++ d.closing.text
  | .keyword w => w = t ∧ t ∈ g.keywords.words
  | .symbol w => w = t ∧ t ∈ g.symbols.words
  | .identifier => True

structure SpellsFirst (g : Grammar) (t : Text) (kind : Token.Kind) : Prop where
  spells : g.Spells t kind
  first : ∀ earlier : Token.Kind, earlier.rank < kind.rank → ¬g.Spells t earlier

theorem Spells.eq_of_rank_eq (h₁ : g.Spells t kind₁) (h₂ : g.Spells t kind₂)
    (hr : kind₁.rank = kind₂.rank) : kind₁ = kind₂ := by
  cases kind₁ <;> cases kind₂ <;> simp_all [Token.Kind.rank, Spells]

theorem SpellsFirst.unique (h₁ : g.SpellsFirst t kind₁) (h₂ : g.SpellsFirst t kind₂) :
    kind₁ = kind₂ := by
  apply h₁.spells.eq_of_rank_eq h₂.spells
  apply Nat.le_antisymm
  case h₁ => exact Nat.le_of_not_lt fun hl => h₁.first _ hl h₂.spells
  case h₂ => exact Nat.le_of_not_lt fun hl => h₂.first _ hl h₁.spells

theorem spells_string_iff : g.Spells t .string ↔ ∃ d ∈ g.string, d.encloses t := by
  simp only [Spells, Delimiters.encloses_iff]

theorem HasKind.spellsFirst (h : g.HasKind t kind) : g.SpellsFirst t kind := by
  have hnum : g.Spells t .number ↔ isNumber t := isNumber_iff.symm
  have hstr := @spells_string_iff g t
  cases h
  case number hn =>
    refine ⟨hnum.mpr hn, fun earlier hr => ?_⟩
    cases earlier <;> simp [Token.Kind.rank] at hr
  case string hn he =>
    refine ⟨hstr.mpr he, fun earlier hr => ?_⟩
    cases earlier <;> simp [Token.Kind.rank] at hr
    case number => exact mt hnum.mp hn
  case keyword hn he hk =>
    refine ⟨⟨rfl, hk⟩, fun earlier hr => ?_⟩
    cases earlier <;> simp [Token.Kind.rank] at hr
    case number => exact mt hnum.mp hn
    case string => exact mt hstr.mp he
  case symbol hn he hk hs =>
    refine ⟨⟨rfl, hs⟩, fun earlier hr => ?_⟩
    cases earlier <;> simp [Token.Kind.rank] at hr
    case number => exact mt hnum.mp hn
    case string => exact mt hstr.mp he
    case keyword => exact fun hw => hk hw.2
  case identifier hn he hk hs =>
    refine ⟨trivial, fun earlier hr => ?_⟩
    cases earlier <;> simp [Token.Kind.rank] at hr
    case number => exact mt hnum.mp hn
    case string => exact mt hstr.mp he
    case keyword => exact fun hw => hk hw.2
    case symbol => exact fun hw => hs hw.2

-- The kind of a text is the first whose language has it. A number is told by its parts, and a
-- grammar that tests bytes and looks words up gives the same kind.
structure DecidesLanguages (g : Grammar) (t : Text) : Prop where
  kind : ∀ kind, g.classify t = kind ↔ g.SpellsFirst t kind
  number : g.Spells t .number ↔
    ∃ whole stop fraction, t = whole ++ stop ++ fraction ∧ IsNumeral whole stop fraction
  bytes : ∀ i : IndexedGrammar, i.Represents g → i.classify t = g.classify t

theorem classify_decidesLanguages (g : Grammar) (t : Text) : g.DecidesLanguages t where
  kind kind := by
    have h := (g.hasKind_classify t).spellsFirst
    constructor
    case mp => exact fun hk => hk ▸ h
    case mpr => exact h.unique
  number := mem_matches'_numeral_iff
  bytes i h := h.classify_eq t

-- Digits of another script, a second full stop, and markers that overlap.
example :
    let g := Grammar.ofSettings [.string ['a', 'é'] ['é', 'a'], .keywords [['1', '.']]]
    ["1.", ".5", "1.2.3", "١", "aéa", "aééa"].map (g.classify ·.toList) =
      [.number, .identifier, .identifier, .identifier, .identifier, .string] := by
  decide +kernel

end Grammar
end LexicalScan
