import LexicalScan.Proofs.Arguments
import LexicalScan.Proofs.Settings

namespace LexicalScan

open Text

namespace Options

open Grammar (Setting)

variable {v : Values} {o : Options} {f : Flag} {value? : Flag → Option Text} {value arg path : Text}
  {args : List Text} {e : Error}

namespace WritesPair

variable {p? : Option (Text × Text)}

theorem exists_isPair (h : WritesPair p? (some value))
    (hw : ∀ p ∈ p?, IsWord p.1 ∧ IsWord p.2) : ∃ p, IsPair value p := by
  cases h
  case some p hs => exact ⟨p, hs, hw p rfl⟩

theorem intercalate (p? : Option (Text × Text)) :
    WritesPair p? (p?.map fun p => [' '].intercalate [p.1, p.2]) := by
  cases p?
  case none => exact .none
  case some p => exact .some (.intercalate _)

end WritesPair

def Values.written? (v : Values) : Flag → Option Text
  | .keywords => some ([' '].intercalate v.keywords)
  | .symbols => some ([' '].intercalate v.symbols)
  | .string => v.string.map fun p => [' '].intercalate [p.1, p.2]
  | .lineComment => v.lineComment
  | .blockComment => v.blockComment.map fun p => [' '].intercalate [p.1, p.2]

theorem Values.isWritten_written? (v : Values) : v.IsWritten v.written? where
  keywords := Spaced.intercalate _
  symbols := Spaced.intercalate _
  string := WritesPair.intercalate _
  lineComment := rfl
  blockComment := WritesPair.intercalate _

def arguments (value? : Flag → Option Text) : List Text :=
  Flag.all.filterMap fun f => (value? f).map (f.stem ++ ·)

def IsRendering (o : Options) (args : List Text) : Prop :=
  ∃ value?, o.IsWritten value? ∧ args.Perm (o.path :: arguments value?)

def render (o : Options) : List Text :=
  o.path :: arguments o.written?

-- Options that arguments can give: words where there have to be words, and a path that does not
-- look like a flag.
structure IsWritable (o : Options) : Prop extends o.AreWords where
  path : IsPositional o.path

theorem isRendering_render (o : Options) : IsRendering o (render o) :=
  ⟨o.written?, o.isWritten_written?, .refl _⟩

theorem mem_arguments_iff :
    arg ∈ arguments value? ↔ ∃ f value, value? f = some value ∧ f.stem ++ value = arg := by
  have hf (f : Flag) : f ∈ Flag.all := by cases f <;> decide
  simp [arguments, hf]

theorem filterMap_arguments (f : Flag) :
    (arguments value?).filterMap f.value? = (value? f).toList := by
  have hv (flag : Flag) :
      ((value? flag).map (flag.stem ++ ·)).bind f.value? = if f = flag then value? f else none := by
    by_cases h : f = flag
    case pos =>
      subst h
      cases value? f <;> simp [Flag.value?_stem_append]
    case neg => cases value? flag <;> simp [Flag.value?_stem_append, h]
  simp only [arguments, List.filterMap_filterMap, hv]
  cases f <;> cases value? _ <;> simp [Flag.all]

theorem filter_isPositional_cons_arguments (h : IsPositional path) :
    (path :: arguments value?).filter IsPositional = [path] := by
  have ha : (arguments value?).filter IsPositional = [] := by
    rw [List.filter_eq_nil_iff]
    intro arg hm
    have ⟨_, value, _, ha⟩ := mem_arguments_iff.mp hm
    simpa [← ha] using not_isPositional_stem_append value
  simp [h, ha]

theorem IsPositional.not_offends_nil (h : IsPositional arg) : ¬Offends [] arg e := by
  intro he
  cases he
  case pair flag hs _ _ => exact not_isPositional_stem_append _ (hs ▸ h)
  case unknown hd _ => exact h hd
  case unexpected hm _ => contradiction

theorem not_offends_nil_stem_append
    (h : f = .string ∨ f = .blockComment → ∃ p, IsPair value p) :
    ¬Offends [] (f.stem ++ value) e := by
  intro he
  cases he
  case pair value' flag hs ht hn =>
    have hv := Flag.value?_eq_some_iff.mpr hs
    rw [Flag.value?_stem_append] at hv
    obtain ⟨rfl, rfl⟩ : flag = f ∧ value = value' := by simpa using hv
    have ⟨p, hp⟩ := h ht
    exact hn p hp
  case unknown hn => exact hn f (List.prefix_append ..)
  case unexpected hm _ => contradiction

theorem last?_eq_of_perm (hp : IsPositional path) (h : args.Perm (path :: arguments value?))
    (f : Flag) : last? f args = value? f := by
  have hv : f.value? path = none := Flag.value?_eq_none_iff.mpr (hp.noFlag f)
  have hm := h.filterMap f.value?
  rw [List.filterMap_cons_none hv, filterMap_arguments] at hm
  rw [last?_eq]
  cases hf : value? f
  case none =>
    rw [hf] at hm
    rw [List.perm_nil.mp hm]
    rfl
  case some value =>
    rw [hf] at hm
    rw [List.perm_singleton.mp hm]
    rfl

theorem IsWritable.not_offends_nil (hw : o.IsWritable) (hv : o.IsWritten value?)
    (ha : arg ∈ o.path :: arguments value?) : ¬Offends [] arg e := by
  cases List.mem_cons.mp ha
  case inl h => exact IsPositional.not_offends_nil (h ▸ hw.path)
  case inr h =>
    obtain ⟨f, value, hf, rfl⟩ := mem_arguments_iff.mp h
    apply not_offends_nil_stem_append
    rintro (rfl | rfl)
    case inl => exact (hf ▸ hv.string).exists_isPair hw.string
    case inr => exact (hf ▸ hv.blockComment).exists_isPair hw.blockComment

theorem IsWritable.parse_eq (hw : o.IsWritable) (h : o.IsRendering args) : parse args = .ok o := by
  have ⟨value?, hv, hp⟩ := h
  have hf : args.filter IsPositional = [o.path] := by
    have := hp.filter IsPositional
    rw [filter_isPositional_cons_arguments hw.path] at this
    exact List.perm_singleton.mp this
  have hl : o.IsWritten (last? · args) := by
    have : (last? · args) = value? := funext (last?_eq_of_perm hw.path hp)
    rwa [this]
  have hb : Blameless args := by
    refine blameless_iff.mpr ⟨fun arg ha e => ?_, by simp [hf]⟩
    exact hw.not_offends_nil hv (hp.subset ha)
  exact parse_eq_ok_iff.mpr ⟨hb, hf, hw.toAreWords, hl⟩

theorem isWritable_of_parse (h : parse args = .ok o) : o.IsWritable where
  toAreWords := (parse_eq_ok_iff.mp h).2.2.areWords
  path := by
    have hm : o.path ∈ args.filter IsPositional := by
      rw [(parse_eq_ok_iff.mp h).2.1]
      exact List.mem_singleton_self _
    simpa using (List.mem_filter.mp hm).2

theorem grammar_eq_of_perm {settings : List Setting} (h : settings.Perm o.ownSettings) :
    o.grammar = .ofSettings settings := by
  have hs : o.settings = o.ownSettings := by
    have ⟨⟨_, _, string, lineComment, blockComment⟩, _⟩ := o
    cases string <;> cases lineComment <;> cases blockComment <;> rfl
  rw [grammar, hs, Grammar.ofSettings_perm h.symm o.ownSettings_pairwise]

-- Parsing gives back what was rendered, and with it the grammar that the settings make in any
-- order. What was parsed can be rendered and parsed again.
structure RoundTrip (o : Options) : Prop where
  parsed : o.IsWritable → ∀ args, o.IsRendering args → parse args = .ok o
  configured : o.IsWritable → ∀ args settings, o.IsRendering args →
    settings.Perm o.ownSettings → (parse args).map grammar = .ok (.ofSettings settings)
  writable : ∀ args, parse args = .ok o → o.IsWritable
  rendered : o.IsRendering (render o)
  reparsed : ∀ args, parse args = .ok o →
    parse (render o) = .ok o ∧ ∀ args', o.IsRendering args' → parse args' = .ok o

theorem options_roundTrip (o : Options) : RoundTrip o := by
  constructor
  case parsed => exact fun hw _ h => hw.parse_eq h
  case configured =>
    intro hw args settings h hs
    rw [hw.parse_eq h, ← grammar_eq_of_perm hs]
    rfl
  case writable => exact fun _ => isWritable_of_parse
  case rendered => exact isRendering_render o
  case reparsed =>
    intro args h
    have hw := isWritable_of_parse h
    exact ⟨hw.parse_eq (isRendering_render o), fun _ => hw.parse_eq⟩

-- A value may look like a flag, and a path like a list of words.
example :
    parse ["--line-comment=--string=".toList, " a b ".toList, "--keywords=\u3000if  =\n".toList] =
      .ok
        { keywords := ["if".toList, "=".toList]
          lineComment := some "--string=".toList
          path := " a b ".toList } := by
  decide

end Options
end LexicalScan
