/-! What a run takes from outside: texts of files and of standard input. -/

namespace Pluck
namespace Command

/-- Why a text cannot be read. -/
inductive ReadError where
  | notFound
  | notADirectory
  | isADirectory
  | nameTooLong
  | nulInPath
  | notText
  | other (message : String)
deriving DecidableEq

def ReadError.message : ReadError → String
  | .notFound => "No such file or directory (os error 2)"
  | .notADirectory => "Not a directory (os error 20)"
  | .isADirectory => "Is a directory (os error 21)"
  | .nameTooLong => "File name too long (os error 36)"
  | .nulInPath => "file name contained an unexpected NUL byte"
  | .notText => "stream did not contain valid UTF-8"
  | .other message => message

/-- What a run can read, and the words of the TOML reader for a text that it refuses. -/
structure Surroundings (m : Type → Type) where
  readFile : String → m (Except ReadError String)
  readStdin : m (Except ReadError String)
  tomlFault : String → String

/-- The words of a reader that says the same about every text. -/
def plainTomlFault (_text : String) : String := "TOML parse error"

/-- Bytes as a text. -/
def decodeText (bytes : ByteArray) : Except ReadError String :=
  match String.fromUTF8? bytes with
  | some text => .ok text
  | none => .error .notText

/-- Files by their paths. -/
abbrev Directory := List (String × ByteArray)

namespace Directory

def readFile (directory : Directory) (path : String) : Except ReadError String :=
  match directory.lookup path with
  | none => .error .notFound
  | some bytes => decodeText bytes

/-- What a run with these files can read. The state is what is left of its standard input. -/
def surroundings (directory : Directory) : Surroundings (StateM ByteArray) where
  readFile path := pure (directory.readFile path)
  readStdin := modifyGet fun unread => (decodeText unread, .empty)
  tomlFault := plainTomlFault

end Directory

end Command
end Pluck
