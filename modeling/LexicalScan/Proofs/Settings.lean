import LexicalScan.Options
import LexicalScan.Proofs.WordSets

namespace LexicalScan

open Text

-- The words of `given`, each once and where it stands first. Empty words are left out.
structure ListsFirst (words given : List Text) : Prop where
  nodup : words.Nodup
  ne_nil : [] ∉ words
  mem_iff : ∀ w, w ∈ words ↔ w ∈ given ∧ w ≠ []
  ordered : words.Pairwise fun v w => given.idxOf v < given.idxOf w

namespace Vocabulary

variable {v : Vocabulary} {w : Text} {ws : List Text}

theorem words_insert :
    (v.insert w).words = if w = [] ∨ w ∈ v.words then v.words else v.words ++ [w] := by
  unfold insert
  split <;> rfl

theorem ofList_concat : ofList (ws ++ [w]) = (ofList ws).insert w := by
  simp [ofList]

theorem eq_of_words_eq {v₁ v₂ : Vocabulary} (h : v₁.words = v₂.words) : v₁ = v₂ := by
  cases v₁
  cases v₂
  simp_all

theorem ordered_ofList (ws : List Text) :
    (ofList ws).words.Pairwise fun v w => ws.idxOf v < ws.idxOf w := by
  induction ws using List.reverseRecOn
  case nil => exact .nil
  case append_singleton ws w ih =>
    have hi {v : Text} (hv : v ∈ (ofList ws).words) : (ws ++ [w]).idxOf v = ws.idxOf v :=
      List.idxOf_append_of_mem (mem_ofList.mp hv).1
    have hs : (ofList ws).words.Pairwise fun v u => (ws ++ [w]).idxOf v < (ws ++ [w]).idxOf u := by
      apply ih.imp_of_mem
      intro v u hv hu h
      rwa [hi hv, hi hu]
    rw [ofList_concat, words_insert]
    split
    case isTrue => exact hs
    case isFalse h =>
      rw [not_or, mem_ofList, not_and_not_right] at h
      have hw : w ∉ ws := fun hw => h.1 (h.2 hw)
      refine List.pairwise_append.mpr ⟨hs, List.pairwise_singleton .., fun v hv u hu => ?_⟩
      rw [List.mem_singleton.mp hu, hi hv, List.idxOf_append_of_notMem hw]
      have := List.idxOf_lt_length_of_mem (mem_ofList.mp hv).1
      omega

theorem listsFirst_ofList (ws : List Text) : ListsFirst (ofList ws).words ws where
  nodup := (ofList ws).nodup
  ne_nil h := (ofList ws).ne_nil [] h rfl
  mem_iff _ := mem_ofList
  ordered := ordered_ofList ws

theorem words_foldl_insert (hn : (v.words ++ ws).Nodup) (he : [] ∉ ws) :
    (ws.foldl insert v).words = v.words ++ ws := by
  induction ws generalizing v
  case nil => simp
  case cons w ws ih =>
    have hw : ¬(w = [] ∨ w ∈ v.words) := by
      rintro (rfl | hw)
      case inl => exact he List.mem_cons_self
      case inr => exact (List.nodup_append.mp hn).2.2 w hw w List.mem_cons_self rfl
    have hv : (v.insert w).words = v.words ++ [w] := by rw [words_insert, if_neg hw]
    rw [List.foldl_cons, ih (by simpa [hv] using hn) (fun h => he (List.mem_cons_of_mem w h)), hv]
    simp

theorem ofList_words (v : Vocabulary) : ofList v.words = v := by
  apply eq_of_words_eq
  have h := @words_foldl_insert empty v.words
  exact h v.nodup fun he => v.ne_nil [] he rfl

end Vocabulary

structure IndexedWords where
  words : List Text := []
  index : Std.HashSet Text := {}

namespace IndexedWords

variable {s : IndexedWords} {v : Vocabulary} {w t : Text}

def insert (s : IndexedWords) (w : Text) : IndexedWords :=
  if w.isEmpty then s else
    let (known, index) := s.index.containsThenInsert w
    { words := if known then s.words else s.words ++ [w], index }

def ofList (ws : List Text) : IndexedWords :=
  ws.foldl insert {}

def contains (s : IndexedWords) (t : Text) : Bool :=
  s.index.contains t

-- The list is that of a vocabulary, and the index has the same words.
structure Represents (s : IndexedWords) (v : Vocabulary) : Prop where
  words_eq : s.words = v.words
  mem_index_iff : ∀ t, t ∈ s.index ↔ t ∈ v.words

theorem Represents.contains_eq (h : s.Represents v) (t : Text) : s.contains t = v.contains t := by
  rw [Bool.eq_iff_iff, Vocabulary.contains_iff]
  exact h.mem_index_iff t

theorem Represents.empty : ({} : IndexedWords).Represents .empty where
  words_eq := rfl
  mem_index_iff := by simp [Vocabulary.empty]

theorem Represents.insert (h : s.Represents v) : (s.insert w).Represents (v.insert w) := by
  by_cases hw : w = []
  case pos =>
    have he : v.insert w = v := Vocabulary.eq_of_words_eq (by simp [Vocabulary.words_insert, hw])
    rw [he]
    simpa [IndexedWords.insert, hw] using h
  case neg =>
    constructor
    case words_eq =>
      simp [IndexedWords.insert, hw, Vocabulary.words_insert, h.words_eq, h.mem_index_iff]
    case mem_index_iff =>
      intro t
      simp [IndexedWords.insert, hw, Vocabulary.mem_insert, h.mem_index_iff, or_comm, @eq_comm _ t]

theorem represents_ofList (ws : List Text) : (ofList ws).Represents (.ofList ws) := by
  induction ws using List.reverseRecOn
  case nil => exact .empty
  case append_singleton ws w ih =>
    rw [Vocabulary.ofList_concat, ofList, List.foldl_append]
    exact ih.insert

end IndexedWords

structure IndexedGrammar where
  keywords : IndexedWords := {}
  symbols : IndexedWords := {}
  string : Option Delimiters := none
  lineComment : Option Marker := none
  blockComment : Option Delimiters := none

namespace IndexedGrammar

open Grammar (Setting)

variable {i : IndexedGrammar} {g : Grammar}

def set (g : IndexedGrammar) : Setting → IndexedGrammar
  | .keywords words => { g with keywords := .ofList words }
  | .symbols words => { g with symbols := .ofList words }
  | .string opening closing => { g with string := Delimiters.ofTexts? opening closing }
  | .lineComment marker => { g with lineComment := Marker.ofText? marker }
  | .blockComment opening closing => { g with blockComment := Delimiters.ofTexts? opening closing }

def ofSettings (settings : List Setting) : IndexedGrammar :=
  settings.foldl set {}

def isKeyword (g : IndexedGrammar) (t : Text) : Bool :=
  g.keywords.contains t

def isSymbol (g : IndexedGrammar) (t : Text) : Bool :=
  g.symbols.contains t

structure Represents (i : IndexedGrammar) (g : Grammar) : Prop where
  keywords : i.keywords.Represents g.keywords
  symbols : i.symbols.Represents g.symbols
  string : i.string = g.string
  lineComment : i.lineComment = g.lineComment
  blockComment : i.blockComment = g.blockComment

theorem Represents.set (h : i.Represents g) (s : Setting) : (i.set s).Represents (g.set s) := by
  cases s
  case keywords => exact { h with keywords := IndexedWords.represents_ofList _ }
  case symbols => exact { h with symbols := IndexedWords.represents_ofList _ }
  case string => exact { h with string := rfl }
  case lineComment => exact { h with lineComment := rfl }
  case blockComment => exact { h with blockComment := rfl }

theorem Represents.foldl_set (h : i.Represents g) (settings : List Setting) :
    (settings.foldl IndexedGrammar.set i).Represents (settings.foldl Grammar.set g) := by
  induction settings generalizing i g
  case nil => exact h
  case cons s settings ih => exact ih (h.set s)

theorem represents_ofSettings (settings : List Setting) :
    (ofSettings settings).Represents (.ofSettings settings) :=
  Represents.foldl_set ⟨.empty, .empty, rfl, rfl, rfl⟩ settings

end IndexedGrammar

def Delimiters.texts (d : Delimiters) : Text × Text :=
  (d.opening.text, d.closing.text)

theorem Delimiters.map_texts_ofTexts? (p : Text × Text) :
    (ofTexts? p.1 p.2).map texts = (some p).filter fun p => p.1 ≠ [] ∧ p.2 ≠ [] := by
  by_cases ho : p.1 = [] <;> by_cases hc : p.2 = [] <;>
    simp [ofTexts?, Marker.ofText?, ho, hc, texts, Option.filter]

theorem Marker.map_text_ofText? (t : Text) : (ofText? t).map text = (some t).filter (· ≠ []) := by
  by_cases ht : t = [] <;> simp [ofText?, ht, Option.filter]

def Grammar.Setting.part : Grammar.Setting → Options.Flag
  | keywords _ => .keywords
  | symbols _ => .symbols
  | string .. => .string
  | lineComment _ => .lineComment
  | blockComment .. => .blockComment

namespace Options

open Grammar (Setting)

variable {v : Values} {flag : Flag} {s : Setting}

def Values.setting? (v : Values) : Flag → Option Setting
  | .keywords => some (.keywords v.keywords)
  | .symbols => some (.symbols v.symbols)
  | .string => v.string.map fun p => .string p.1 p.2
  | .lineComment => v.lineComment.map .lineComment
  | .blockComment => v.blockComment.map fun p => .blockComment p.1 p.2

def Values.ownSettings (v : Values) : List Setting :=
  Flag.all.filterMap v.setting?

theorem Values.part_of_setting?_eq_some (h : v.setting? flag = some s) : s.part = flag := by
  cases flag
  case keywords =>
    cases h
    rfl
  case symbols =>
    cases h
    rfl
  case string =>
    obtain ⟨_, _, rfl⟩ := Option.map_eq_some_iff.mp h
    rfl
  case lineComment =>
    obtain ⟨_, _, rfl⟩ := Option.map_eq_some_iff.mp h
    rfl
  case blockComment =>
    obtain ⟨_, _, rfl⟩ := Option.map_eq_some_iff.mp h
    rfl

theorem Values.ownSettings_pairwise (v : Values) :
    v.ownSettings.Pairwise (·.part ≠ ·.part) := by
  rw [ownSettings, List.pairwise_filterMap]
  have hn : Flag.all.Nodup := by decide
  refine hn.imp fun hf s hs s' hs' => ?_
  rwa [part_of_setting?_eq_some hs, part_of_setting?_eq_some hs']

end Options

namespace Grammar

open Options (Flag Values)

variable {g g' : Grammar} {s s' : Setting} {settings settings' : List Setting}

def Setting.string? : Setting → Option (Text × Text)
  | string opening closing => some (opening, closing)
  | _ => none

def Setting.lineComment? : Setting → Option Text
  | lineComment marker => some marker
  | _ => none

def Setting.blockComment? : Setting → Option (Text × Text)
  | blockComment opening closing => some (opening, closing)
  | _ => none

structure SameLast (settings settings' : List Setting) : Prop where
  keywords : last? Setting.keywords? settings = last? Setting.keywords? settings'
  symbols : last? Setting.symbols? settings = last? Setting.symbols? settings'
  string : last? Setting.string? settings = last? Setting.string? settings'
  lineComment : last? Setting.lineComment? settings = last? Setting.lineComment? settings'
  blockComment : last? Setting.blockComment? settings = last? Setting.blockComment? settings'

-- Without a setting a pair is as absent as after one with empty markers.
theorem ofSettings_eq (settings : List Setting) :
    let string := (last? Setting.string? settings).getD ([], [])
    let blockComment := (last? Setting.blockComment? settings).getD ([], [])
    ofSettings settings =
      { keywords := .ofList (givenKeywords settings)
        symbols := .ofList (givenSymbols settings)
        string := Delimiters.ofTexts? string.1 string.2
        lineComment := Marker.ofText? ((last? Setting.lineComment? settings).getD [])
        blockComment := Delimiters.ofTexts? blockComment.1 blockComment.2 } := by
  intro string blockComment
  have hs : (ofSettings settings).string = Delimiters.ofTexts? string.1 string.2 :=
    part_ofSettings _ (fun p : Text × Text => Delimiters.ofTexts? p.1 p.2) _ rfl
      (fun _ s => by cases s <;> rfl) settings
  have hl : (ofSettings settings).lineComment =
      Marker.ofText? ((last? Setting.lineComment? settings).getD []) :=
    part_ofSettings _ Marker.ofText? _ rfl (fun _ s => by cases s <;> rfl) settings
  have hb : (ofSettings settings).blockComment =
      Delimiters.ofTexts? blockComment.1 blockComment.2 :=
    part_ofSettings _ (fun p : Text × Text => Delimiters.ofTexts? p.1 p.2) _ rfl
      (fun _ s => by cases s <;> rfl) settings
  rw [← keywords_ofSettings, ← symbols_ofSettings, ← hs, ← hl, ← hb]

theorem SameLast.ofSettings_eq (h : SameLast settings settings') :
    ofSettings settings = ofSettings settings' := by
  rw [Grammar.ofSettings_eq, Grammar.ofSettings_eq, givenKeywords, givenSymbols, h.keywords,
    h.symbols, h.string, h.lineComment, h.blockComment, givenKeywords, givenSymbols]

theorem set_comm (h : s.part ≠ s'.part) : (g.set s).set s' = (g.set s').set s := by
  cases s <;> cases s' <;> simp_all [set, Setting.part]

theorem ofSettings_append_cons_cons (h : s.part ≠ s'.part) (before after : List Setting) :
    ofSettings (before ++ s :: s' :: after) = ofSettings (before ++ s' :: s :: after) := by
  simp [ofSettings, set_comm h]

theorem ofSettings_perm (hp : settings.Perm settings')
    (hd : settings.Pairwise (·.part ≠ ·.part)) : ofSettings settings = ofSettings settings' := by
  have : Std.Symm fun s s' : Setting => s.part ≠ s'.part := ⟨fun _ _ => Ne.symm⟩
  apply hp.foldl_eq'
  intro s hs s' hs' g
  by_cases he : s = s'
  case pos => rw [he]
  case neg => exact set_comm (hd.forall hs hs' he)

def values (g : Grammar) : Values where
  keywords := g.keywords.words
  symbols := g.symbols.words
  string := g.string.map Delimiters.texts
  lineComment := g.lineComment.map Marker.text
  blockComment := g.blockComment.map Delimiters.texts

theorem ofSettings_ownSettings (g : Grammar) : ofSettings g.values.ownSettings = g := by
  have ⟨keywords, symbols, string, lineComment, blockComment⟩ := g
  cases string <;> cases lineComment <;> cases blockComment <;>
    simp [values, Values.ownSettings, Flag.all, List.filterMap_cons, Values.setting?, ofSettings,
      set, Vocabulary.ofList_words, Delimiters.texts]

-- A grammar keeps of its settings the last for each part. The words are listed as they were first
-- given, and looked up in an index with the same answer. A construct is there if its markers are
-- not empty.
structure KeepsLast (settings : List Setting) : Prop where
  keywords : ListsFirst (ofSettings settings).keywords.words (givenKeywords settings)
  symbols : ListsFirst (ofSettings settings).symbols.words (givenSymbols settings)
  string : (ofSettings settings).string.map Delimiters.texts =
    (last? Setting.string? settings).filter fun p => p.1 ≠ [] ∧ p.2 ≠ []
  lineComment : (ofSettings settings).lineComment.map Marker.text =
    (last? Setting.lineComment? settings).filter (· ≠ [])
  blockComment : (ofSettings settings).blockComment.map Delimiters.texts =
    (last? Setting.blockComment? settings).filter fun p => p.1 ≠ [] ∧ p.2 ≠ []
  index : (IndexedGrammar.ofSettings settings).Represents (ofSettings settings)
  isKeyword : ∀ t,
    (IndexedGrammar.ofSettings settings).isKeyword t = (ofSettings settings).isKeyword t ∧
    ((ofSettings settings).isKeyword t ↔ t ∈ (ofSettings settings).keywords.words)
  isSymbol : ∀ t,
    (IndexedGrammar.ofSettings settings).isSymbol t = (ofSettings settings).isSymbol t ∧
    ((ofSettings settings).isSymbol t ↔ t ∈ (ofSettings settings).symbols.words)
  alone : ∀ settings', SameLast settings settings' → ofSettings settings' = ofSettings settings
  commute : ∀ before (s s' : Setting) after, settings = before ++ s :: s' :: after → s.part ≠ s'.part →
    ofSettings (before ++ s' :: s :: after) = ofSettings settings
  fedBack : ∀ fed : List Setting, fed.Perm (ofSettings settings).values.ownSettings →
    ofSettings fed = ofSettings settings

theorem settings_keepsLast (settings : List Setting) : KeepsLast settings := by
  have he := ofSettings_eq settings
  have hi := IndexedGrammar.represents_ofSettings settings
  constructor
  case keywords => exact keywords_ofSettings settings ▸ Vocabulary.listsFirst_ofList _
  case symbols => exact symbols_ofSettings settings ▸ Vocabulary.listsFirst_ofList _
  case string =>
    rw [he, Delimiters.map_texts_ofTexts?]
    cases last? Setting.string? settings <;> rfl
  case lineComment =>
    rw [he, Marker.map_text_ofText?]
    cases last? Setting.lineComment? settings <;> rfl
  case blockComment =>
    rw [he, Delimiters.map_texts_ofTexts?]
    cases last? Setting.blockComment? settings <;> rfl
  case index => exact hi
  case isKeyword => exact fun t => ⟨hi.keywords.contains_eq t, Vocabulary.contains_iff⟩
  case isSymbol => exact fun t => ⟨hi.symbols.contains_eq t, Vocabulary.contains_iff⟩
  case alone => exact fun _ h => h.ofSettings_eq.symm
  case commute =>
    rintro before s s' after rfl h
    exact ofSettings_append_cons_cons h.symm before after
  case fedBack =>
    intro fed hp
    rw [← ofSettings_perm hp.symm (Values.ownSettings_pairwise _), ofSettings_ownSettings]

-- An empty marker takes back what was set before.
example :
    ofSettings [.string ['"'] ['"'], .keywords [['b'], [], ['a'], ['b']], .string ['"'] []] =
      ofSettings [.keywords [['b'], ['a']]] := by
  decide

end Grammar
end LexicalScan
