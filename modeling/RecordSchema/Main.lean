import RecordSchema.Command.Run

/-!
# The command line

Reads what a command line asks for and writes the outcome. All files and standard input are
read beforehand, as far as the command line names them.
-/

namespace RecordSchema

open Command

/-- Why a file cannot be read, as the operating system says. -/
def inputFault : IO.Error → InputFault
  | .noFileOrDirectory _ _ _ => .notFound
  | .inappropriateType _ 21 _ => .isDirectory
  | .inappropriateType _ 20 _ => .notDirectory
  | error => .other (toString error)

/-- The bytes of the file at a path. -/
def fileAt (path : String) : IO (Except InputFault ByteArray) := do
  try
    return .ok (← IO.FS.readBinFile path)
  catch error =>
    return .error (inputFault error)

/-- All bytes of a stream, behind those read before. -/
partial def bytesFrom (stream : IO.FS.Stream) (before : ByteArray) : IO ByteArray := do
  let bytes ← stream.read 65536
  if bytes.isEmpty then return before else bytesFrom stream (before ++ bytes)

/-- The inputs that a request reads. -/
def inputsFor : Request → IO Inputs
  | .object "-" _ => do
    let standard ← bytesFrom (← IO.getStdin) .empty
    return { file := fun _ => .error .notFound, standard }
  | .object path _ => do
    let content ← fileAt path
    return { file := fun _ => content, standard := .empty }
  | _ => return { file := fun _ => .error .notFound, standard := .empty }

end RecordSchema

open RecordSchema Command in
/-- The program. -/
def main (words : List String) : IO UInt32 := do
  let inputs ←
    match Request.ofWords words with
    | .ok request => inputsFor request
    | .error _ => pure { file := fun _ => .error .notFound, standard := .empty }
  let outcome := run inputs words
  IO.print outcome.output
  IO.eprint outcome.errors
  return outcome.exitCode.toUInt32
