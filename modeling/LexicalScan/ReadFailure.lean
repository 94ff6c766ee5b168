import LexicalScan.Text.Basic

namespace LexicalScan

inductive ReadFailure
  | system (reason : Text) (code : Nat)
  | notUtf8
  deriving DecidableEq

namespace ReadFailure

def notFound : ReadFailure :=
  system "No such file or directory".toList 2

def notDirectory : ReadFailure :=
  system "Not a directory".toList 20

def isDirectory : ReadFailure :=
  system "Is a directory".toList 21

def nameTooLong : ReadFailure :=
  system "File name too long".toList 36

def message : ReadFailure → Text
  | system reason code => reason ++ " (os error ".toList ++ Text.decimal code ++ ")".toList
  | notUtf8 => "stream did not contain valid UTF-8".toList

end ReadFailure

-- The text of some bytes, if they are valid UTF-8. A byte order mark is part of the text.
def decode (bytes : ByteArray) : Except ReadFailure Text :=
  match String.fromUTF8? bytes with
  | some s => .ok s.toList
  | none => .error .notUtf8

end LexicalScan
