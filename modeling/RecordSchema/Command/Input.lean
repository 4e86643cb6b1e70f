/-!
# Input

The texts that a command reads: from files, by their paths, or from standard input. This module
also describes a directory of files in itself, in which paths are followed as an operating
system would.
-/

namespace RecordSchema

namespace Command

/-- Why a text cannot be read. -/
inductive InputFault where
  | notFound
  | notDirectory
  | isDirectory
  | nameTooLong
  /-- The bytes are no UTF-8. -/
  | notText
  | other (message : String)
deriving DecidableEq

/-- Why a text cannot be read, in words. -/
def InputFault.message : InputFault → String
  | .notFound => "No such file or directory (os error 2)"
  | .notDirectory => "Not a directory (os error 20)"
  | .isDirectory => "Is a directory (os error 21)"
  | .nameTooLong => "File name too long (os error 36)"
  | .notText => "stream did not contain valid UTF-8"
  | .other message => message

/-- What can be read. -/
structure Inputs where
  /-- The bytes of the file at a path. -/
  file : String → Except InputFault ByteArray
  /-- The bytes of standard input. -/
  standard : ByteArray

/-- The text of bytes. -/
def textOf (bytes : ByteArray) : Except InputFault String :=
  match String.fromUTF8? bytes with
  | some text => .ok text
  | none => .error .notText

/-- The text at a path, where a dash stands for standard input. -/
def Inputs.text (inputs : Inputs) (path : String) : Except InputFault String :=
  if path = "-" then textOf inputs.standard else inputs.file path >>= textOf

/-! ### Directories -/

/-- The files of a directory, by their names. -/
abbrev Directory : Type := List (String × ByteArray)

namespace Directory

/-- A place that a path has led to. -/
inductive Location where
  /-- The directory itself. -/
  | base
  /-- A directory around it, of which nothing else is known. -/
  | around
  | file (content : ByteArray)

/-- The place that the next name of a path leads to. -/
def step (directory : Directory) (location : Location) (name : String) :
    Except InputFault Location :=
  match location with
  | .file _ => .error .notDirectory
  | .base | .around =>
    if name = "" ∨ name = "." then .ok location
    else if name = ".." then .ok .around
    else if 255 < name.utf8ByteSize then .error .nameTooLong
    else
      match location, directory.lookup name with
      | .base, some content => .ok (.file content)
      | _, _ => .error .notFound

/-- The place that the names of a path lead to. -/
def follow (directory : Directory) (location : Location) :
    List String → Except InputFault Location
  | [] => .ok location
  | name :: rest => do follow directory (← step directory location name) rest

/-- The bytes of the file at a path. -/
def read (directory : Directory) (path : String) : Except InputFault ByteArray :=
  if path = "" then .error .notFound
  else if 4095 < path.utf8ByteSize then .error .nameTooLong
  else do
    let start := if path.toList.head? = some '/' then Location.around else .base
    match ← follow directory start (path.splitOn "/") with
    | .file content => pure content
    | _ => throw .isDirectory

end Directory

end Command

end RecordSchema
