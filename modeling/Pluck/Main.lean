import Pluck.Command.Run

/-! The program: files and standard input as the system has them. -/

open Pluck

namespace Pluck.Command

/-- What the system says about a file that cannot be read. -/
def ReadError.ofSystem : IO.Error → ReadError
  | .noFileOrDirectory .. => .notFound
  | .inappropriateType _ code _ =>
      if code.toInt32.toInt.natAbs = 20 then .notADirectory else .isADirectory
  | .invalidArgument _ code _ =>
      if code.toInt32.toInt.natAbs = 36 then .nameTooLong else .nulInPath
  | e => .other (toString e)

partial def readToEnd (stream : IO.FS.Stream) (read : ByteArray) : IO ByteArray := do
  let more ← stream.read 65536
  if more.isEmpty then return read else readToEnd stream (read ++ more)

def systemSurroundings : Surroundings IO where
  readFile path := do
    try return decodeText (← IO.FS.readBinFile path)
    catch e => return .error (.ofSystem e)
  readStdin := do
    try return decodeText (← readToEnd (← IO.getStdin) .empty)
    catch e => return .error (.ofSystem e)
  tomlFault := plainTomlFault

end Pluck.Command

def main (args : List String) : IO UInt32 := do
  let outcome ← Command.run Command.systemSurroundings args (← IO.getEnv "RUST_LOG")
  IO.eprint outcome.stderr
  IO.print outcome.stdout
  return outcome.exitCode.toUInt32
