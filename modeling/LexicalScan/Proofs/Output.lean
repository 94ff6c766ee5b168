import LexicalScan.Program
import LexicalScan.Proofs.Arguments
import LexicalScan.Proofs.Kinds
import LexicalScan.Proofs.Positions
import LexicalScan.Proofs.Printing
import LexicalScan.Proofs.Reading

namespace LexicalScan

open Text

namespace Token

inductive Kind.HasTag : Kind → Text → Prop
  | keyword (t : Text) : HasTag (.keyword t) t
  | symbol (t : Text) : HasTag (.symbol t) t
  | identifier : HasTag .identifier "IDENT".toList
  | number : HasTag .number "NUMBER".toList
  | string : HasTag .string "STRING".toList

-- The line of a token, without the newline at its end.
inductive Reads (hidden : Char → Bool) (t : Token) : Text → Prop
  | line {tag q : Text} (hasTag : t.kind.HasTag tag) (isQuoted : IsQuoted hidden t.lexeme.text q) :
      Reads hidden t ("  ".toList ++ tag ++ " ".toList ++ q ++ " @ ".toList ++
        Nat.toDigits 10 t.lexeme.start.line.toNat ++ ":".toList ++
        Nat.toDigits 10 t.lexeme.start.column.toNat)

def shown (t : Token) : Token.Kind × Text × UInt32 × UInt32 :=
  (t.kind, t.lexeme.text, t.lexeme.start.line, t.lexeme.start.column)

theorem Kind.hasTag_tag (k : Kind) : k.HasTag k.tag := by
  cases k
  case keyword t => exact .keyword t
  case symbol t => exact .symbol t
  case identifier => exact .identifier
  case number => exact .number
  case string => exact .string

namespace Reads

variable {hidden : Char → Bool} {t t₁ t₂ : Token} {content content₁ content₂ u v : Text}

theorem newline_not_mem (h : t.Reads hidden content)
    (ht : ∀ tag, t.kind.HasTag tag → '\n' ∉ tag) : '\n' ∉ content := by
  obtain ⟨hk, hq⟩ := h
  simp [ht _ hk, hq.newline_not_mem, newline_not_mem_decimal]

-- A tag ends at the first space, and what follows it is quoted.
theorem append_inj (h₁ : t₁.Reads hidden content₁) (h₂ : t₂.Reads hidden content₂)
    (hs₁ : ∀ tag, t₁.kind.HasTag tag → ' ' ∉ tag) (hs₂ : ∀ tag, t₂.kind.HasTag tag → ' ' ∉ tag)
    (h : content₁ ++ '\n' :: u = content₂ ++ '\n' :: v) :
    t₁.lexeme.text = t₂.lexeme.text ∧ t₁.lexeme.start.line = t₂.lexeme.start.line ∧
      t₁.lexeme.start.column = t₂.lexeme.start.column ∧ u = v := by
  obtain ⟨hk₁, hq₁⟩ := h₁
  obtain ⟨hk₂, hq₂⟩ := h₂
  simp only [String.reduceToList, List.append_assoc, List.cons_append, List.nil_append,
    List.cons.injEq, true_and] at h
  have ⟨_, h⟩ := append_cons_inj (hs₁ _ hk₁) (hs₂ _ hk₂) h
  have ⟨ht, h⟩ := hq₁.append_inj hq₂ h
  simp only [List.cons.injEq, true_and] at h
  have ⟨hl, h⟩ := decimal_append_cons_inj (by decide) h
  have ⟨hc, h⟩ := decimal_append_cons_inj (by decide) h
  exact ⟨ht, UInt32.toNat_inj.mp hl, UInt32.toNat_inj.mp hc, h⟩

end Reads
end Token

inductive Issue.Reads : Issue → Text → Prop
  | stringLiteral (line column : UInt32) : Reads ⟨.stringLiteral, line, column⟩
      ("unterminated ".toList ++ "string literal".toList ++ " starting at ".toList ++
        (Nat.toDigits 10 line.toNat ++ ':' :: Nat.toDigits 10 column.toNat))
  | blockComment (line column : UInt32) : Reads ⟨.blockComment, line, column⟩
      ("unterminated ".toList ++ "block comment".toList ++ " starting at ".toList ++
        (Nat.toDigits 10 line.toNat ++ ':' :: Nat.toDigits 10 column.toNat))

theorem Issue.reads_message (i : Issue) : i.Reads i.message := by
  obtain ⟨construct, line, column⟩ := i
  cases construct
  case stringLiteral => exact .stringLiteral line column
  case blockComment => exact .blockComment line column

theorem Issue.Reads.newline_not_mem {i : Issue} {message : Text} (h : i.Reads message) :
    '\n' ∉ message := by
  cases h <;> simp [newline_not_mem_decimal]

def Grammar.tokens (g : Grammar) (source : Text) : List Token :=
  (g.scan source).lexemes.map g.token

theorem Grammar.kind_of_mem_tokens {g : Grammar} {source : Text} {t : Token}
    (h : t ∈ g.tokens source) : t.kind = g.classify t.lexeme.text := by
  have ⟨l, _, he⟩ := List.mem_map.mp h
  rw [← he]
  rfl

namespace Options

variable {o : Options} {args : List Text} {t tag : Text} {c : Char} {e : Error}

theorem grammar_eq (o : Options) :
    o.grammar =
      { keywords := .ofList o.keywords
        symbols := .ofList o.symbols
        string := o.string.bind fun p => Delimiters.ofTexts? p.1 p.2
        lineComment := o.lineComment.bind Marker.ofText?
        blockComment := o.blockComment.bind fun p => Delimiters.ofTexts? p.1 p.2 } := by
  have ⟨⟨_, _, string, lineComment, blockComment⟩, _⟩ := o
  cases string <;> cases lineComment <;> cases blockComment <;> rfl

-- Only keywords and symbols are printed as they are, and arguments give them as words.
theorem Values.AreWords.no_space_of_mem_tag (h : o.AreWords)
    (ht : (o.grammar.classify t).HasTag tag) (hc : c ∈ tag) : isSpace c = false := by
  have hw {w : Text} (h : w.all (!isSpace ·)) : ∀ c ∈ w, isSpace c = false := by simpa using h
  have hk := o.grammar.hasKind_classify t
  generalize o.grammar.classify t = kind at ht hk
  cases hk <;> cases ht
  case keyword hm =>
    rw [grammar_eq, Vocabulary.mem_ofList] at hm
    exact (h.keywords t hm.1).no_space c hc
  case symbol hm =>
    rw [grammar_eq, Vocabulary.mem_ofList] at hm
    exact (h.symbols t hm.1).no_space c hc
  case number => exact hw (by decide) c hc
  case string => exact hw (by decide) c hc
  case identifier => exact hw (by decide) c hc

theorem not_mem_tag_of_parse (h : parse args = .ok o) (hc : isSpace c) :
    ∀ t tag, (o.grammar.classify t).HasTag tag → c ∉ tag := by
  intro t tag ht hm
  rw [(parse_eq_ok_iff.mp h).2.2.areWords.no_space_of_mem_tag ht hm] at hc
  contradiction

theorem error_cases (h : parse args = .error e) :
    e = .missingPath ∨ ∃ earlier arg, Offends earlier arg e := by
  by_cases hb : Blameless args
  case pos =>
    have ⟨d, _, he⟩ := parse_of_blameless hb
    rw [he, ofDraft] at h
    split at h
    case h_1 => contradiction
    case h_2 => exact .inl (Except.error.inj h).symm
  case neg =>
    obtain ⟨before, arg, after, e', rfl, hb, ho⟩ := exists_leftmost hb
    rw [parse_of_offends hb ho] at h
    exact .inr ⟨before, arg, Except.error.inj h ▸ ho⟩

end Options

namespace Program

inductive Failure.Reads : Failure → Text → Prop
  | missingPath : Reads (.options .missingPath) "missing file path".toList
  | unknownOption (arg : Text) : Reads (.options (.unknownOption arg))
      ("unknown option '".toList ++ arg ++ "'".toList)
  | unexpectedArgument (arg : Text) : Reads (.options (.unexpectedArgument arg))
      ("unexpected argument '".toList ++ arg ++ "'".toList)
  | invalidString (value : Text) : Reads (.options (.invalidPair .string value))
      ("--string".toList ++ " expects two whitespace-separated markers, got '".toList ++ value ++
        "'".toList)
  | invalidBlockComment (value : Text) : Reads (.options (.invalidPair .blockComment value))
      ("--block-comment".toList ++ " expects two whitespace-separated markers, got '".toList ++
        value ++ "'".toList)
  | system (path reason : Text) (code : Nat) : Reads (.read path (.system reason code))
      ("cannot read '".toList ++ path ++ "': ".toList ++
        (reason ++ " (os error ".toList ++ Nat.toDigits 10 code ++ ")".toList))
  | notUtf8 (path : Text) : Reads (.read path .notUtf8)
      ("cannot read '".toList ++ path ++ "': ".toList ++
        "stream did not contain valid UTF-8".toList)

structure GivesUp (f : Failure) (r : Outcome) : Prop where
  stdout : r.stdout = []
  stderr : ∃ message, f.Reads message ∧ "error: ".toList ++ message ++ "\n".toList <+: r.stderr
  exit : r.exit = 1

-- A run that prints the tokens of a source, each on a line after the header, and its issues.
structure Prints (hidden : Char → Bool) (o : Options) (source : Text) (r : Outcome) : Prop where
  configuration : o.grammar =
    { keywords := .ofList o.keywords
      symbols := .ofList o.symbols
      string := o.string.bind fun p => Delimiters.ofTexts? p.1 p.2
      lineComment := o.lineComment.bind Marker.ofText?
      blockComment := o.blockComment.bind fun p => Delimiters.ofTexts? p.1 p.2 }
  yields : ∃ last,
    (Lexer.analyze { grammar := o.grammar } source).Yields (o.grammar.tokens source) last
  inOrder : (o.grammar.tokens source).Pairwise fun t₁ t₂ =>
    t₁.lexeme.endOffset ≤ t₂.lexeme.start.offset
  stdout : ∃ lines, List.Forall₂ (Token.Reads hidden) (o.grammar.tokens source) lines ∧
    (∀ l ∈ lines, '\n' ∉ l) ∧
    r.stdout = "Tokens for '".toList ++ o.path ++ "' (".toList ++
      Nat.toDigits 10 (o.grammar.tokens source).length ++ " tokens):\n".toList ++
      lines.flatMap (· ++ "\n".toList)
  newlines : '\n' ∉ o.path → r.stdout.count '\n' = (o.grammar.tokens source).length + 1
  stderr : ∃ messages, List.Forall₂ Issue.Reads (o.grammar.scan source).issues messages ∧
    (∀ m ∈ messages, '\n' ∉ m) ∧
    r.stderr = messages.flatMap ("error: ".toList ++ · ++ "\n".toList)
  errors : r.stderr.count '\n' = (o.grammar.scan source).issues.length
  atMostOne : (o.grammar.scan source).issues.length ≤ 1
  exit : r.exit = 0 ↔ (o.grammar.scan source).issues = []

-- A run of the `lex` command, where `read` gives the source at a path.
def runLex (hidden : Char → Bool) (read : Text → Except ReadFailure Text) (args : List Text) :
    Outcome :=
  run (m := Id) read ("lex".toList :: args) hidden

variable {hidden : Char → Bool} {args : List Text} {o : Options} {path u v : Text} {m n : Nat}

theorem runLex_eq (hidden : Char → Bool) (read : Text → Except ReadFailure Text)
    (args : List Text) :
    runLex hidden read args =
      match Options.parse args with
      | .error e => Failure.outcome (.options e)
      | .ok o => lex hidden o (read o.path) := by
  have h : Command.ofArgs ("lex".toList :: args) = .lex args := by simp [Command.ofArgs]
  rw [runLex, run, h]
  simp only
  cases Options.parse args <;> rfl

theorem exists_forall₂_flatMap {α : Type} {R : α → Text → Prop} {f : α → Text} {g : Text → Text}
    (h : ∀ a, ∃ t, R a t ∧ f a = g t) (l : List α) :
    ∃ ts, List.Forall₂ R l ts ∧ l.flatMap f = ts.flatMap g := by
  induction l
  case nil => exact ⟨[], .nil, rfl⟩
  case cons a l ih =>
    have ⟨t, ht, he⟩ := h a
    have ⟨ts, hts, hes⟩ := ih
    exact ⟨t :: ts, .cons ht hts, by rw [List.flatMap_cons, List.flatMap_cons, he, hes]⟩

theorem stdout_report (hidden : Char → Bool) (o : Options) (source : Text) :
    ∃ lines, List.Forall₂ (Token.Reads hidden) (o.grammar.tokens source) lines ∧
      (report hidden o source).stdout = "Tokens for '".toList ++ o.path ++ "' (".toList ++
        Nat.toDigits 10 (o.grammar.tokens source).length ++ " tokens):\n".toList ++
        lines.flatMap (· ++ "\n".toList) := by
  have ht (t : Token) :
      ∃ content, t.Reads hidden content ∧ tokenLine hidden t = content ++ "\n".toList :=
    ⟨_, .line t.kind.hasTag_tag (isQuoted_quoted hidden t.lexeme.text), by
      simp [tokenLine, line, Token.describe, Lexeme.describe, Position.describe,
        Position.coordinates, decimal]⟩
  have ⟨lines, hl, he⟩ := exists_forall₂_flatMap ht (o.grammar.tokens source)
  refine ⟨lines, hl, ?_⟩
  rw [← he]
  simp [report, Lexer.analyze, Lexer.remaining, Lexer.rest, Grammar.tokens, header, line, decimal]

theorem stderr_report (hidden : Char → Bool) (o : Options) (source : Text) :
    ∃ messages, List.Forall₂ Issue.Reads (o.grammar.scan source).issues messages ∧
      (report hidden o source).stderr =
        messages.flatMap ("error: ".toList ++ · ++ "\n".toList) :=
  exists_forall₂_flatMap (fun i : Issue => ⟨i.message, i.reads_message, by simp [errorLine, line]⟩) _

theorem map_shown_inj {g : Grammar} {ts₁ ts₂ : List Token} {lines₁ lines₂ : List Text}
    (hs : ∀ t tag, (g.classify t).HasTag tag → ' ' ∉ tag)
    (hk₁ : ∀ t ∈ ts₁, t.kind = g.classify t.lexeme.text)
    (hk₂ : ∀ t ∈ ts₂, t.kind = g.classify t.lexeme.text)
    (h₁ : List.Forall₂ (Token.Reads hidden) ts₁ lines₁)
    (h₂ : List.Forall₂ (Token.Reads hidden) ts₂ lines₂)
    (h : lines₁.flatMap (· ++ "\n".toList) = lines₂.flatMap (· ++ "\n".toList)) :
    ts₁.map Token.shown = ts₂.map Token.shown := by
  induction h₁ generalizing ts₂ lines₂
  case nil =>
    cases h₂
    case nil => rfl
    case cons => simp at h
  case cons t₁ content₁ ts₁ lines₁ hr₁ _ ih =>
    cases h₂
    case nil => simp at h
    case cons t₂ content₂ ts₂ lines₂ hr₂ h₂ =>
      have ⟨hk₁, hks₁⟩ := List.forall_mem_cons.mp hk₁
      have ⟨hk₂, hks₂⟩ := List.forall_mem_cons.mp hk₂
      simp only [List.flatMap_cons, String.reduceToList, List.append_assoc, List.cons_append,
        List.nil_append] at h
      have ⟨ht, hl, hc, h⟩ := hr₁.append_inj hr₂ (hk₁ ▸ hs _) (hk₂ ▸ hs _) h
      have he : t₁.shown = t₂.shown := by simp [Token.shown, hk₁, hk₂, ht, hl, hc]
      rw [List.map_cons, List.map_cons, he, ih hks₁ hks₂ h₂ (by simpa using h)]

theorem header_append_inj
    (h : "Tokens for '".toList ++ path ++ "' (".toList ++ Nat.toDigits 10 m ++
        " tokens):\n".toList ++ u =
      "Tokens for '".toList ++ path ++ "' (".toList ++ Nat.toDigits 10 n ++
        " tokens):\n".toList ++ v) : u = v := by
  simp only [List.append_assoc, List.append_cancel_left_eq] at h
  simp only [String.reduceToList, List.cons_append] at h
  have ⟨_, h⟩ := decimal_append_cons_inj (by decide) h
  simpa using h

theorem shown_tokens_of_stdout_eq {hidden : Char → Bool}
    {read₁ read₂ : Text → Except ReadFailure Text} {source₁ source₂ : Text}
    (ho : Options.parse args = .ok o)
    (h₁ : read₁ o.path = .ok source₁) (h₂ : read₂ o.path = .ok source₂)
    (h : (runLex hidden read₁ args).stdout = (runLex hidden read₂ args).stdout) :
    (o.grammar.tokens source₁).map Token.shown = (o.grammar.tokens source₂).map Token.shown := by
  simp only [runLex_eq, ho, h₁, h₂, lex] at h
  have ⟨lines₁, hl₁, he₁⟩ := stdout_report hidden o source₁
  have ⟨lines₂, hl₂, he₂⟩ := stdout_report hidden o source₂
  rw [he₁, he₂] at h
  exact map_shown_inj (Options.not_mem_tag_of_parse ho (by decide))
    (fun _ => Grammar.kind_of_mem_tokens) (fun _ => Grammar.kind_of_mem_tokens) hl₁ hl₂
    (header_append_inj h)

-- A keyword spelled like a tag, and a literal that holds what looks like a line of the output.
theorem shown_tokens_of_stdout_eq_lookalike :
    let args := ["--keywords=IDENT", "--string=' '", "-"].map String.toList
    let o : Options :=
      { keywords := ["IDENT".toList], string := some (['\''], ['\'']), path := ['-'] }
    let source₁ := "IDENT '\n  IDENT \"x\" @ 2:1' x".toList
    let source₂ := "IDENT '\n  IDENT \"x\" @ 2:1' x\n".toList
    Options.parse args = .ok o ∧
    (runLex isHidden (fun _ => .ok source₁) args).stdout =
      (runLex isHidden (fun _ => .ok source₂) args).stdout ∧
    (o.grammar.tokens source₁).map Token.shown = (o.grammar.tokens source₂).map Token.shown := by
  intro args o source₁ source₂
  have ho : Options.parse args = .ok o := by decide +kernel
  have hs : (runLex isHidden (fun _ => .ok source₁) args).stdout =
      (runLex isHidden (fun _ => .ok source₂) args).stdout := by decide +kernel
  exact ⟨ho, hs, shown_tokens_of_stdout_eq ho rfl rfl hs⟩

theorem count_newline_flatMap {f : Text → Text} {lines : List Text}
    (h : ∀ l ∈ lines, (f l).count '\n' = 1) : (lines.flatMap f).count '\n' = lines.length := by
  have hc : lines.map (List.count '\n' ∘ f) = lines.map fun _ => 1 := List.map_congr_left h
  rw [List.count_flatMap, hc]
  simp

theorem Failure.givesUp {f : Failure} (h : f.Reads f.message) : GivesUp f f.outcome where
  stdout := rfl
  stderr := ⟨f.message, h, f.hint, rfl⟩
  exit := rfl

theorem Failure.reads_message_of_parse {e : Options.Error} (h : Options.parse args = .error e) :
    (Failure.options e).Reads (Failure.options e).message := by
  rcases Options.error_cases h with rfl | ⟨earlier, arg, ho⟩
  case inl => exact .missingPath
  case inr =>
    cases ho
    case pair value flag _ ht _ =>
      rcases ht with rfl | rfl
      case inl => exact .invalidString value
      case inr => exact .invalidBlockComment value
    case unknown => exact .unknownOption arg
    case unexpected => exact .unexpectedArgument arg

theorem Failure.reads_message_read (path : Text) (f : ReadFailure) :
    (Failure.read path f).Reads (Failure.read path f).message := by
  cases f
  case system reason code => exact .system path reason code
  case notUtf8 => exact .notUtf8 path

theorem report_prints (ho : Options.parse args = .ok o) (source : Text) :
    Prints hidden o source (report hidden o source) := by
  have ⟨lines, hl, hs⟩ := stdout_report hidden o source
  have ⟨messages, hm, he⟩ := stderr_report hidden o source
  have hln : ∀ l ∈ lines, '\n' ∉ l := by
    intro l h
    have ⟨t, ht, hr⟩ := exists_of_mem_of_forall₂ hl.flip h
    apply hr.newline_not_mem
    rw [Grammar.kind_of_mem_tokens ht]
    exact Options.not_mem_tag_of_parse ho (by decide) _
  have hmn : ∀ m ∈ messages, '\n' ∉ m := by
    intro m h
    have ⟨_, _, hr⟩ := exists_of_mem_of_forall₂ hm.flip h
    exact hr.newline_not_mem
  constructor
  case configuration => exact o.grammar_eq
  case yields => exact ⟨_, (Lexer.analyze { grammar := o.grammar } source).yields_drain⟩
  case inOrder =>
    have ⟨_, hg⟩ := o.grammar.exists_segmentation source
    exact List.pairwise_map.mpr hg.lexemes_inOrder
  case stdout => exact ⟨lines, hl, hln, hs⟩
  case newlines =>
    intro hp
    have hc : (lines.flatMap (· ++ "\n".toList)).count '\n' = lines.length :=
      count_newline_flatMap fun l h => by simp [List.count_eq_zero_of_not_mem (hln l h)]
    rw [hs, List.count_append, hc, ← hl.length_eq]
    simp [List.count_eq_zero_of_not_mem hp, List.count_eq_zero_of_not_mem newline_not_mem_decimal,
      Nat.add_comm]
  case stderr => exact ⟨messages, hm, hmn, he⟩
  case errors =>
    rw [he, hm.length_eq]
    exact count_newline_flatMap fun m h => by simp [List.count_eq_zero_of_not_mem (hmn m h)]
  case atMostOne => exact o.grammar.length_issues_le source
  case exit =>
    show (if (o.grammar.scan source).issues = [] then 0 else 1) = 0 ↔ _
    split <;> simp_all

theorem runLex_shape (hidden : Char → Bool) (read : Text → Except ReadFailure Text)
    (args : List Text) :
    match Options.parse args with
    | .error e => GivesUp (.options e) (runLex hidden read args)
    | .ok o =>
      match read o.path with
      | .error f => GivesUp (.read o.path f) (runLex hidden read args)
      | .ok source => Prints hidden o source (runLex hidden read args) := by
  rw [runLex_eq]
  cases ho : Options.parse args
  case error e => exact Failure.givesUp (Failure.reads_message_of_parse ho)
  case ok o =>
    simp only
    cases read o.path
    case error f => exact Failure.givesUp (Failure.reads_message_read o.path f)
    case ok source => exact report_prints ho source

end Program
end LexicalScan
