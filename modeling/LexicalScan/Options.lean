import LexicalScan.Grammar
import LexicalScan.Text.Space

namespace LexicalScan

open Text

namespace Options

inductive Flag
  | keywords
  | symbols
  | string
  | lineComment
  | blockComment
  deriving DecidableEq

namespace Flag

def all : List Flag :=
  [keywords, symbols, string, lineComment, blockComment]

def name : Flag → Text
  | keywords => "--keywords".toList
  | symbols => "--symbols".toList
  | string => "--string".toList
  | lineComment => "--line-comment".toList
  | blockComment => "--block-comment".toList

def stem (f : Flag) : Text :=
  f.name ++ ['=']

def value? (f : Flag) (arg : Text) : Option Text :=
  if f.stem.isPrefixOf arg then some (arg.drop f.stem.length) else none

end Flag

inductive Argument
  | setting (flag : Flag) (value : Text)
  | unknown (arg : Text)
  | positional (arg : Text)
  deriving DecidableEq

-- An argument without a known flag is unknown if it begins with two dashes, and positional
-- otherwise.
def Argument.ofText (arg : Text) : Argument :=
  (Flag.all.findSome? fun f => (f.value? arg).map (setting f)).getD
    (if "--".toList.isPrefixOf arg then unknown arg else positional arg)

inductive Error
  | missingPath
  | unknownOption (arg : Text)
  | unexpectedArgument (arg : Text)
  | invalidPair (flag : Flag) (value : Text)
  deriving DecidableEq

def Error.message : Error → Text
  | missingPath => "missing file path".toList
  | unknownOption arg => "unknown option '".toList ++ arg ++ "'".toList
  | unexpectedArgument arg => "unexpected argument '".toList ++ arg ++ "'".toList
  | invalidPair flag value =>
    flag.name ++ " expects two whitespace-separated markers, got '".toList ++ value ++ "'".toList

structure Values where
  keywords : List Text := []
  symbols : List Text := []
  string : Option (Text × Text) := none
  lineComment : Option Text := none
  blockComment : Option (Text × Text) := none
  deriving DecidableEq

def pair (flag : Flag) (value : Text) : Except Error (Text × Text) :=
  match words value with
  | [opening, closing] => .ok (opening, closing)
  | _ => .error (.invalidPair flag value)

def Values.set (v : Values) (flag : Flag) (value : Text) : Except Error Values :=
  match flag with
  | .keywords => .ok { v with keywords := words value }
  | .symbols => .ok { v with symbols := words value }
  | .string => (pair flag value).map fun p => { v with string := some p }
  | .lineComment => .ok { v with lineComment := some value }
  | .blockComment => (pair flag value).map fun p => { v with blockComment := some p }

structure Draft where
  values : Values := {}
  path : Option Text := none
  deriving DecidableEq

def Draft.take (d : Draft) : Argument → Except Error Draft
  | .setting flag value => (d.values.set flag value).map fun values => { d with values }
  | .unknown arg => .error (.unknownOption arg)
  | .positional arg =>
    match d.path with
    | none => .ok { d with path := some arg }
    | some _ => .error (.unexpectedArgument arg)

end Options

-- The path of the source, `-` for the standard input, and the values of the flags.
structure Options extends Options.Values where
  path : Text
  deriving DecidableEq

namespace Options

def ofDraft (d : Draft) : Except Error Options :=
  match d.path with
  | some path => .ok { toValues := d.values, path }
  | none => .error .missingPath

def parse (args : List Text) : Except Error Options :=
  (args.map Argument.ofText).foldlM Draft.take {} >>= ofDraft

def settings (o : Options) : List Grammar.Setting :=
  [.keywords o.keywords, .symbols o.symbols]
    ++ (o.string.map fun p => .string p.1 p.2).toList
    ++ (o.lineComment.map .lineComment).toList
    ++ (o.blockComment.map fun p => .blockComment p.1 p.2).toList

def grammar (o : Options) : Grammar :=
  .ofSettings o.settings

end Options
end LexicalScan
