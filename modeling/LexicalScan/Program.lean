import LexicalScan.ReadFailure
import LexicalScan.Lexer.Basic
import LexicalScan.Options

namespace LexicalScan

open Text

namespace Program

structure Outcome where
  exit : UInt32 := 0
  stdout : Text := []
  stderr : Text := []
  deriving DecidableEq

def line (t : Text) : Text :=
  t ++ ['\n']

def errorLine (message : Text) : Text :=
  line ("error: ".toList ++ message)

def usage : Text :=
  [ "srclex - configuration-driven lexical scanner",
    "",
    "Usage: srclex <command> [options]",
    "",
    "Commands:",
    "  lex <file|->     Print the token stream of a file (or stdin)",
    "  help             Show this message",
    "",
    "Lex options (lists are whitespace-separated):",
    "  --keywords=<words>        Reserved keywords, e.g. --keywords=\"if else\"",
    "  --symbols=<symbols>       Operators/punctuation, e.g. --symbols=\"== = ,\"",
    "  --string=<open close>     String delimiters, e.g. --string='\" \"'",
    "  --line-comment=<marker>   Line comment marker, e.g. --line-comment=//",
    "  --block-comment=<o c>     Block comment markers, e.g. --block-comment='/* */'",
    "",
    "Set RUST_LOG=srclex=debug to trace the scan." ].flatMap (line ·.toList)

inductive Command
  | help
  | lex (args : List Text)
  | unknown (name : Text)
  deriving DecidableEq

def Command.ofArgs : List Text → Command
  | [] => help
  | name :: args =>
    if name = "lex".toList then lex args
    else if ["help".toList, "--help".toList, "-h".toList].contains name then help
    else unknown name

inductive Failure
  | options (error : Options.Error)
  | read (path : Text) (failure : ReadFailure)
  deriving DecidableEq

namespace Failure

def message : Failure → Text
  | options error => error.message
  | read path failure => "cannot read '".toList ++ path ++ "': ".toList ++ failure.message

def hint : Failure → Text
  | options .missingPath => line "Usage: srclex lex <file|-> [options]".toList
  | _ => []

def outcome (f : Failure) : Outcome where
  exit := 1
  stderr := errorLine f.message ++ f.hint

end Failure

def header (path : Text) (count : Nat) : Text :=
  line ("Tokens for '".toList ++ path ++ "' (".toList ++ decimal count ++ " tokens):".toList)

def tokenLine (hidden : Char → Bool) (t : Token) : Text :=
  line ("  ".toList ++ t.describe hidden)

def report (hidden : Char → Bool) (o : Options) (source : Text) : Outcome :=
  let lexer := Lexer.analyze { grammar := o.grammar } source
  { exit := if lexer.scan.issues = [] then 0 else 1
    stdout := header o.path lexer.remaining ++ lexer.rest.flatMap (tokenLine hidden)
    stderr := lexer.scan.issues.flatMap fun i => errorLine i.message }

def lex (hidden : Char → Bool) (o : Options) : Except ReadFailure Text → Outcome
  | .ok source => report hidden o source
  | .error failure => Failure.outcome (.read o.path failure)

-- A run of the program, where `read` fetches the source at a path.
def run {m : Type → Type} [Monad m] (read : Text → m (Except ReadFailure Text)) (args : List Text)
    (hidden : Char → Bool := isHidden) : m Outcome :=
  match Command.ofArgs args with
  | .help => pure { stdout := usage }
  | .unknown name =>
    pure
      { exit := 1
        stdout := usage
        stderr := errorLine ("unknown command '".toList ++ name ++ "'".toList) ++ line [] }
  | .lex args =>
    match Options.parse args with
    | .error error => pure (Failure.outcome (.options error))
    | .ok options => lex hidden options <$> read options.path

end Program
end LexicalScan
