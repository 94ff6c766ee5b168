import Mathlib
import LexicalScan.Options

namespace LexicalScan

open Text

namespace Options

variable {v v' : Values} {d : Draft} {o : Options} {f flag : Flag} {arg value path : Text}
  {args args' : List Text} {e : Error}

namespace Flag

theorem value?_eq_some_iff : f.value? arg = some value ↔ arg = f.stem ++ value := by
  unfold value?
  split
  case isTrue h =>
    obtain ⟨u, rfl⟩ := List.isPrefixOf_iff_prefix.mp h
    simp [eq_comm]
  case isFalse h =>
    refine iff_of_false (by simp) ?_
    rintro rfl
    simp at h

theorem eq_of_stem_isPrefix (h : f.stem <+: arg) (h' : flag.stem <+: arg) : f = flag := by
  have hs : ∀ f flag : Flag, f.stem <+: flag.stem → f = flag := by
    intro f flag
    cases f <;> cases flag <;> decide
  cases List.prefix_or_prefix_of_prefix h h'
  case inl hp => exact hs _ _ hp
  case inr hp => exact (hs _ _ hp).symm

theorem value?_stem_append (value : Text) :
    f.value? (flag.stem ++ value) = if f = flag then some value else none := by
  split
  case isTrue h => rw [h, value?_eq_some_iff]
  case isFalse h =>
    rw [Option.eq_none_iff_forall_ne_some]
    intro u hu
    exact h (eq_of_stem_isPrefix ⟨u, (value?_eq_some_iff.mp hu).symm⟩ (List.prefix_append ..))

theorem value?_eq_none_iff : f.value? arg = none ↔ ¬f.stem <+: arg := by
  simp [value?]

theorem dashes_isPrefix_stem (f : Flag) : "--".toList <+: f.stem := by
  cases f <;> decide

end Flag

def IsPositional (arg : Text) : Prop :=
  ¬"--".toList <+: arg

instance : DecidablePred IsPositional := fun _ =>
  inferInstanceAs (Decidable ¬_)

theorem not_isPositional_stem_append (value : Text) : ¬IsPositional (flag.stem ++ value) :=
  not_not.mpr (flag.dashes_isPrefix_stem.trans (List.prefix_append ..))

theorem IsPositional.noFlag (h : IsPositional arg) (f : Flag) : ¬f.stem <+: arg :=
  fun hf => h (f.dashes_isPrefix_stem.trans hf)

theorem ofText_stem_append (flag : Flag) (value : Text) :
    Argument.ofText (flag.stem ++ value) = .setting flag value := by
  cases flag <;> simp [Argument.ofText, Flag.all, Flag.value?_stem_append]

theorem ofText_of_noFlag (h : ∀ f : Flag, ¬f.stem <+: arg) :
    Argument.ofText arg = if "--".toList <+: arg then .unknown arg else .positional arg := by
  simp [Argument.ofText, Flag.all, Flag.value?_eq_none_iff.mpr (h _)]

theorem ofText_of_isPositional (h : IsPositional arg) : Argument.ofText arg = .positional arg := by
  rw [ofText_of_noFlag h.noFlag, if_neg h]

inductive IsRead : Text → Argument → Prop
  | setting {arg value : Text} {flag : Flag} (isSetting : arg = flag.stem ++ value) :
      IsRead arg (.setting flag value)
  | unknown {arg : Text} (dashes : "--".toList <+: arg) (noFlag : ∀ f : Flag, ¬f.stem <+: arg) :
      IsRead arg (.unknown arg)
  | positional {arg : Text} (isPositional : IsPositional arg) : IsRead arg (.positional arg)

theorem isRead_ofText (arg : Text) : IsRead arg (.ofText arg) := by
  by_cases h : ∃ f : Flag, f.stem <+: arg
  case pos =>
    obtain ⟨f, value, rfl⟩ := h
    rw [ofText_stem_append]
    exact .setting rfl
  case neg =>
    have hn : ∀ f : Flag, ¬f.stem <+: arg := fun f hf => h ⟨f, hf⟩
    rw [ofText_of_noFlag hn]
    split
    case isTrue hd => exact .unknown hd hn
    case isFalse hd => exact .positional hd

theorem Flag.value?_eq_dropPrefix? (f : Flag) (arg : Text) :
    f.value? arg = arg.dropPrefix? f.stem := by
  ext value
  rw [value?_eq_some_iff, List.dropPrefix?_eq_some_iff]
  simp

def last? (flag : Flag) (args : List Text) : Option Text :=
  (args.filterMap (·.dropPrefix? flag.stem)).getLast?

theorem last?_eq (flag : Flag) (args : List Text) :
    last? flag args = (args.filterMap flag.value?).getLast? := by
  simp only [last?, ← Flag.value?_eq_dropPrefix?]

theorem last?_concat : last? f (args ++ [arg]) = (f.value? arg).or (last? f args) := by
  rw [last?_eq, last?_eq, List.filterMap_append]
  cases h : f.value? arg <;> simp [h]

structure Values.AreWords (v : Values) : Prop where
  keywords : ∀ w ∈ v.keywords, IsWord w
  symbols : ∀ w ∈ v.symbols, IsWord w
  string : ∀ p ∈ v.string, IsWord p.1 ∧ IsWord p.2
  blockComment : ∀ p ∈ v.blockComment, IsWord p.1 ∧ IsWord p.2

-- An empty list of words may be left out.
def WritesList (ws : List Text) : Option Text → Prop
  | none => ws = []
  | some t => Spaced ws t

def WritesPair : Option (Text × Text) → Option Text → Prop :=
  Option.Rel fun p => Spaced [p.1, p.2]

-- What to write behind each flag, or that the flag is left out.
structure Values.IsWritten (v : Values) (value? : Flag → Option Text) : Prop where
  keywords : WritesList v.keywords (value? .keywords)
  symbols : WritesList v.symbols (value? .symbols)
  string : WritesPair v.string (value? .string)
  lineComment : v.lineComment = value? .lineComment
  blockComment : WritesPair v.blockComment (value? .blockComment)

-- Each flag has the value that it was given last. Flags that are not given have none.
structure Values.AreGiven (v : Values) (args : List Text) : Prop where
  areWords : v.AreWords
  isWritten : v.IsWritten (last? · args)

theorem writesList_iff {ws : List Text} {t? : Option Text} :
    (WritesList ws t? ∧ ∀ w ∈ ws, IsWord w) ↔ ws = (t?.map words).getD [] := by
  cases t?
  case none => simp +contextual [WritesList]
  case some t => simp [WritesList, ← words_eq_iff, eq_comm]

theorem writesPair_iff {p? : Option (Text × Text)} {t? : Option Text} :
    (WritesPair p? t? ∧ ∀ p ∈ p?, IsWord p.1 ∧ IsWord p.2) ↔
      t?.map words = p?.map fun p => [p.1, p.2] := by
  cases p? <;> cases t? <;> simp [WritesPair, words_eq_iff]

theorem areGiven_iff :
    v.AreGiven args ↔
      v.keywords = ((last? .keywords args).map words).getD [] ∧
      v.symbols = ((last? .symbols args).map words).getD [] ∧
      (last? .string args).map words = (v.string.map fun p => [p.1, p.2]) ∧
      v.lineComment = last? .lineComment args ∧
      (last? .blockComment args).map words = v.blockComment.map fun p => [p.1, p.2] := by
  simp only [← writesList_iff, ← writesPair_iff]
  constructor
  case mp =>
    rintro ⟨hw, hv⟩
    exact ⟨⟨hv.keywords, hw.keywords⟩, ⟨hv.symbols, hw.symbols⟩, ⟨hv.string, hw.string⟩,
      hv.lineComment, hv.blockComment, hw.blockComment⟩
  case mpr =>
    rintro ⟨hk, hs, ht, hl, hb⟩
    exact ⟨⟨hk.2, hs.2, ht.2, hb.2⟩, ⟨hk.1, hs.1, ht.1, hl, hb.1⟩⟩

namespace Values.AreGiven

theorem nil : ({} : Values).AreGiven [] := by
  simp [areGiven_iff, last?]

theorem unique (h : v.AreGiven args) (h' : v'.AreGiven args) : v = v' := by
  have hi : Function.Injective fun p : Text × Text => [p.1, p.2] := fun p q hp => by
    simpa [Prod.ext_iff] using hp
  have ⟨hk, hs, ht, hl, hb⟩ := areGiven_iff.mp h
  have ⟨hk', hs', ht', hl', hb'⟩ := areGiven_iff.mp h'
  have ht := Option.map_injective hi (ht.symm.trans ht')
  have hb := Option.map_injective hi (hb.symm.trans hb')
  cases v
  cases v'
  simp_all

theorem concat (h : v.AreGiven args) (ha : ∀ f : Flag, f.value? arg = none) :
    v.AreGiven (args ++ [arg]) := by
  rw [areGiven_iff] at h ⊢
  simpa [last?_concat, ha] using h

theorem congr (h : v.AreGiven args) (hl : ∀ f, last? f args' = last? f args) :
    v.AreGiven args' := by
  rw [areGiven_iff] at h ⊢
  simpa [hl] using h

end Values.AreGiven

def IsPair (value : Text) (p : Text × Text) : Prop :=
  Spaced [p.1, p.2] value ∧ IsWord p.1 ∧ IsWord p.2

theorem isPair_iff {p : Text × Text} : IsPair value p ↔ words value = [p.1, p.2] := by
  simp [IsPair, words_eq_iff]

theorem IsPair.pair_eq {p : Text × Text} (h : IsPair value p) : pair flag value = .ok p := by
  simp [pair, isPair_iff.mp h]

theorem pair_eq_error (h : ∀ p, ¬IsPair value p) :
    pair flag value = .error (.invalidPair flag value) := by
  unfold pair
  split
  case h_1 opening closing hw => exact absurd (isPair_iff.mpr hw) (h (opening, closing))
  case h_2 => rfl

theorem Values.AreGiven.set (h : v.AreGiven args)
    (hp : flag = .string ∨ flag = .blockComment → ∃ p, IsPair value p) :
    ∃ v', v.set flag value = .ok v' ∧ v'.AreGiven (args ++ [flag.stem ++ value]) := by
  rw [areGiven_iff] at h
  simp only [areGiven_iff, last?_concat, Flag.value?_stem_append]
  cases flag
  case keywords => exact ⟨_, rfl, by simpa using h.2⟩
  case symbols => exact ⟨_, rfl, by simpa using ⟨h.1, h.2.2⟩⟩
  case lineComment => exact ⟨_, rfl, by simpa using ⟨h.1, h.2.1, h.2.2.1, h.2.2.2.2⟩⟩
  case string =>
    have ⟨p, hp⟩ := hp (.inl rfl)
    refine ⟨{ v with string := some p }, by simp [Values.set, hp.pair_eq, Except.map], ?_⟩
    simpa [isPair_iff.mp hp] using ⟨h.1, h.2.1, h.2.2.2⟩
  case blockComment =>
    have ⟨p, hp⟩ := hp (.inr rfl)
    refine ⟨{ v with blockComment := some p }, by simp [Values.set, hp.pair_eq, Except.map], ?_⟩
    simpa [isPair_iff.mp hp] using ⟨h.1, h.2.1, h.2.2.1, h.2.2.2.1⟩

-- What an argument does wrong behind the earlier ones: a pair that has not two words, a flag that
-- there is not, or a second path.
inductive Offends (earlier : List Text) : Text → Error → Prop
  | pair {arg value : Text} {flag : Flag} (isSetting : arg = flag.stem ++ value)
      (takesPair : flag = .string ∨ flag = .blockComment) (noPair : ∀ p, ¬IsPair value p) :
      Offends earlier arg (.invalidPair flag value)
  | unknown {arg : Text} (dashes : "--".toList <+: arg) (noFlag : ∀ f : Flag, ¬f.stem <+: arg) :
      Offends earlier arg (.unknownOption arg)
  | unexpected {arg path : Text} (isPositional : IsPositional arg) (taken : path ∈ earlier)
      (isPath : IsPositional path) : Offends earlier arg (.unexpectedArgument arg)

def Blameless (args : List Text) : Prop :=
  ∀ before arg after e, args = before ++ arg :: after → ¬Offends before arg e

structure Draft.Holds (d : Draft) (args : List Text) : Prop where
  values : d.values.AreGiven args
  path : d.path = args.find? IsPositional

namespace Draft.Holds

theorem nil : ({} : Draft).Holds [] where
  values := .nil
  path := rfl

theorem take_of_offends (hd : d.Holds args) (h : Offends args arg e) :
    d.take (.ofText arg) = .error e := by
  cases h
  case pair flag hs ht hn =>
    rw [hs, ofText_stem_append]
    rcases ht with rfl | rfl <;> simp [Draft.take, Values.set, pair_eq_error hn, Except.map]
  case unknown hf hn => rw [ofText_of_noFlag hn, if_pos hf, Draft.take]
  case unexpected path hp hm hi =>
    obtain ⟨q, hq⟩ : ∃ q, args.find? IsPositional = some q :=
      Option.isSome_iff_exists.mp (List.find?_isSome.mpr ⟨path, hm, decide_eq_true hi⟩)
    simp [ofText_of_isPositional hp, Draft.take, hd.path, hq]

theorem take (hd : d.Holds args) (h : ∀ e, ¬Offends args arg e) :
    ∃ d', d.take (.ofText arg) = .ok d' ∧ d'.Holds (args ++ [arg]) := by
  have hr := isRead_ofText arg
  generalize Argument.ofText arg = a at hr
  cases hr
  case unknown hf hn => exact absurd (.unknown hf hn) (h _)
  case positional hp =>
    have hn : args.find? IsPositional = none := by
      rw [List.find?_eq_none]
      intro path hm hi
      exact h _ (.unexpected hp hm (of_decide_eq_true hi))
    have hv := hd.values.concat fun f => Flag.value?_eq_none_iff.mpr (hp.noFlag f)
    exact ⟨{ d with path := some arg }, by simp [Draft.take, hd.path, hn], hv, by simp [hn, hp]⟩
  case setting value flag hs =>
    subst hs
    have hp : flag = .string ∨ flag = .blockComment → ∃ p, IsPair value p :=
      fun ht => by_contra fun hn => h _ (.pair rfl ht (not_exists.mp hn))
    have ⟨v, he, hv⟩ := hd.values.set hp
    refine ⟨{ d with values := v }, by simp [Draft.take, he, Except.map], hv, ?_⟩
    simp [hd.path, List.find?_append, not_isPositional_stem_append]

end Draft.Holds

theorem blameless_nil : Blameless [] := by
  intro before arg after e h
  simp at h

theorem blameless_concat_iff :
    Blameless (args ++ [arg]) ↔ Blameless args ∧ ∀ e, ¬Offends args arg e := by
  constructor
  case mp =>
    intro h
    refine ⟨?_, fun e => h args arg [] e rfl⟩
    rintro before arg' after e rfl
    exact h before arg' (after ++ [arg]) e (by simp)
  case mpr =>
    rintro ⟨hb, ha⟩ before arg' after e h
    rcases List.eq_nil_or_concat' after with rfl | ⟨after, last, rfl⟩
    case inl =>
      obtain ⟨rfl, rfl⟩ : args = before ∧ arg = arg' := by simpa using h
      exact ha e
    case inr =>
      rw [← List.cons_append, ← List.append_assoc] at h
      exact hb before arg' after e (List.append_inj_left' h rfl)

theorem exists_holds_of_blameless (h : Blameless args) :
    ∃ d, (args.map Argument.ofText).foldlM Draft.take {} = .ok d ∧ d.Holds args := by
  induction args using List.reverseRecOn
  case nil => exact ⟨{}, rfl, .nil⟩
  case append_singleton args arg ih =>
    have ⟨hb, ha⟩ := blameless_concat_iff.mp h
    have ⟨d, he, hd⟩ := ih hb
    have ⟨d', he', hd'⟩ := hd.take ha
    refine ⟨d', ?_, hd'⟩
    rw [List.map_append, List.foldlM_append, he]
    simp [bind, Except.bind, he', pure, Except.pure]

theorem parse_of_blameless (h : Blameless args) : ∃ d, d.Holds args ∧ parse args = ofDraft d := by
  have ⟨d, he, hd⟩ := exists_holds_of_blameless h
  exact ⟨d, hd, by rw [parse, he]; rfl⟩

theorem parse_of_offends {before after : List Text} (hb : Blameless before)
    (h : Offends before arg e) : parse (before ++ arg :: after) = .error e := by
  have ⟨d, he, hd⟩ := exists_holds_of_blameless hb
  rw [parse, List.map_append, List.foldlM_append, he]
  simp [bind, Except.bind, hd.take_of_offends h]

theorem exists_leftmost (h : ¬Blameless args) :
    ∃ before arg after e, args = before ++ arg :: after ∧ Blameless before ∧
      Offends before arg e := by
  induction args using List.reverseRecOn
  case nil => exact absurd blameless_nil h
  case append_singleton args arg ih =>
    by_cases hb : Blameless args
    case pos =>
      rw [blameless_concat_iff, not_and] at h
      have ⟨e, he⟩ := not_forall_not.mp (h hb)
      exact ⟨args, arg, [], e, rfl, hb, he⟩
    case neg =>
      obtain ⟨before, arg', after, e, rfl, hb, he⟩ := ih hb
      exact ⟨before, arg', after ++ [arg], e, by simp, hb, he⟩

theorem Offends.mono {earlier earlier' : List Text} (h : Offends earlier arg e)
    (hs : earlier ⊆ earlier') : Offends earlier' arg e := by
  cases h
  case pair hs' ht hn => exact .pair hs' ht hn
  case unknown hd hn => exact .unknown hd hn
  case unexpected hp hm hi => exact .unexpected hp (hs hm) hi

theorem not_offends_iff :
    (∀ e, ¬Offends args arg e) ↔
      (∀ e, ¬Offends [] arg e) ∧ (IsPositional arg → args.filter IsPositional = []) := by
  constructor
  case mp =>
    intro h
    refine ⟨fun e he => h e (he.mono (List.nil_subset _)), fun hp => ?_⟩
    rw [List.filter_eq_nil_iff]
    exact fun path hm hi => h _ (.unexpected hp hm (of_decide_eq_true hi))
  case mpr =>
    rintro ⟨h, hf⟩ e he
    cases he
    case pair hs ht hn => exact h _ (.pair hs ht hn)
    case unknown hd hn => exact h _ (.unknown hd hn)
    case unexpected path hp hm hi =>
      exact List.filter_eq_nil_iff.mp (hf hp) path hm (decide_eq_true hi)

-- Whether all is well with arguments does not depend on their order: each must be right on its own,
-- and at most one may be a path.
theorem blameless_iff :
    Blameless args ↔
      (∀ arg ∈ args, ∀ e, ¬Offends [] arg e) ∧ (args.filter IsPositional).length ≤ 1 := by
  induction args using List.reverseRecOn
  case nil => simp [blameless_nil]
  case append_singleton args arg ih =>
    have hl : (args.filter IsPositional).length + ([arg].filter IsPositional).length ≤ 1 ↔
        (args.filter IsPositional).length ≤ 1 ∧
          (IsPositional arg → args.filter IsPositional = []) := by
      rw [← List.length_eq_zero_iff]
      generalize (args.filter IsPositional).length = n
      by_cases hp : IsPositional arg <;> simp [hp]
      omega
    rw [blameless_concat_iff, ih, not_offends_iff, List.forall_mem_append,
      List.forall_mem_singleton, List.filter_append, List.length_append, hl]
    exact and_and_and_comm

theorem parse_eq_ok_iff :
    parse args = .ok o ↔
      Blameless args ∧ args.filter IsPositional = [o.path] ∧ o.AreGiven args := by
  constructor
  case mp =>
    intro h
    have hb : Blameless args := by
      by_contra hb
      obtain ⟨before, arg, after, e, rfl, hb, he⟩ := exists_leftmost hb
      rw [parse_of_offends hb he] at h
      contradiction
    have hl := (blameless_iff.mp hb).2
    have ⟨d, hd, hp⟩ := parse_of_blameless hb
    rw [hp, ofDraft, hd.path, ← List.head?_filter] at h
    cases hf : args.filter IsPositional
    case nil => simp [hf] at h
    case cons path paths =>
      simp [hf] at h hl
      exact ⟨hb, by simp [← h, hl], h ▸ hd.values⟩
  case mpr =>
    rintro ⟨hb, hf, hv⟩
    have ⟨d, hd, hp⟩ := parse_of_blameless hb
    rw [hp, ofDraft, hd.path, ← List.head?_filter, hf, hd.values.unique hv]
    rfl

theorem parse_perm (hp : args'.Perm args)
    (hf : ∀ flag : Flag, args'.filter (flag.stem <+: ·) = args.filter (flag.stem <+: ·))
    (h : parse args = .ok o) : parse args' = .ok o := by
  have hv (flag : Flag) (args : List Text) :
      args.filterMap flag.value? = (args.filter (flag.stem <+: ·)).filterMap flag.value? := by
    rw [List.filterMap_filter]
    apply List.filterMap_congr
    intro arg _
    split
    case isTrue => rfl
    case isFalse hs => exact Flag.value?_eq_none_iff.mpr (by simpa using hs)
  have hl (flag : Flag) : last? flag args' = last? flag args := by
    rw [last?_eq, last?_eq, hv, hf, ← hv]
  have ⟨hb, hs, hg⟩ := parse_eq_ok_iff.mp h
  have hp' := hp.filter IsPositional
  refine parse_eq_ok_iff.mpr ⟨?_, ?_, ?_⟩
  · rw [blameless_iff] at hb ⊢
    exact ⟨fun arg ha => hb.1 arg (hp.subset ha), hp'.length_eq ▸ hb.2⟩
  · rw [hs] at hp'
    exact List.perm_singleton.mp hp'
  · exact hg.congr hl

-- The leftmost argument that offends decides. Without one, arguments need a path and have the
-- values given last.
structure DecidedByLeftmost (args : List Text) : Prop where
  stems : Flag.all.map Flag.stem =
    ["--keywords=", "--symbols=", "--string=", "--line-comment=", "--block-comment="].map
      String.toList
  offender : ∀ before arg after e, args = before ++ arg :: after → Blameless before →
    Offends before arg e → parse args = .error e
  exists_offender : ¬Blameless args → ∃ before arg after e,
    args = before ++ arg :: after ∧ Blameless before ∧ Offends before arg e
  missingPath : Blameless args →
    (parse args = .error .missingPath ↔ ∀ arg ∈ args, ¬IsPositional arg)
  success : Blameless args → ∀ path ∈ args, IsPositional path →
    args.filter IsPositional = [path] ∧ ∃ v : Values, parse args = .ok { toValues := v, path } ∧
      ∀ v' : Values, v'.AreGiven args ↔ v' = v
  reordered : ∀ o args', parse args = .ok o → args'.Perm args →
    (∀ flag : Flag, args'.filter (flag.stem <+: ·) = args.filter (flag.stem <+: ·)) →
    parse args' = .ok o

theorem parse_decidedByLeftmost (args : List Text) : DecidedByLeftmost args := by
  constructor
  case stems => rfl
  case offender =>
    rintro before arg after e rfl hb he
    exact parse_of_offends hb he
  case exists_offender => exact exists_leftmost
  case missingPath =>
    intro hb
    have ⟨d, hd, he⟩ := parse_of_blameless hb
    rw [he, ofDraft, hd.path]
    cases hf : args.find? IsPositional
    case none => simpa using List.find?_eq_none.mp hf
    case some path =>
      have hp := List.find?_some hf
      have hm := List.mem_of_find?_eq_some hf
      exact iff_of_false (by simp) fun h => h path hm (of_decide_eq_true hp)
  case success =>
    intro hb path hm hp
    have hf : args.filter IsPositional = [path] := by
      have hm : path ∈ args.filter IsPositional := List.mem_filter.mpr ⟨hm, decide_eq_true hp⟩
      have hl := (blameless_iff.mp hb).2.antisymm (List.length_pos_of_mem hm)
      have ⟨q, hq⟩ := List.length_eq_one_iff.mp hl
      rw [hq] at hm ⊢
      rw [List.mem_singleton.mp hm]
    have ⟨d, hd, _⟩ := parse_of_blameless hb
    refine ⟨hf, d.values, parse_eq_ok_iff.mpr ⟨hb, hf, hd.values⟩, fun v => ?_⟩
    exact ⟨fun h => h.unique hd.values, fun h => h ▸ hd.values⟩
  case reordered => exact fun o args' h hp hf => parse_perm hp hf h

end Options
end LexicalScan
