import RecordSchema.Build.Object
import RecordSchema.Command.Arguments
import RecordSchema.Command.Input
import RecordSchema.Description.Format

/-!
# Running commands

What a command writes and how it ends, for every command line and all inputs.
-/

namespace RecordSchema

namespace Command

/-- How a command ends. -/
structure Outcome where
  exitCode : UInt8
  /-- What is written to standard output. -/
  output : String
  /-- What is written to standard error. -/
  errors : String
deriving DecidableEq, Inhabited

namespace Outcome

/-- The outcome of a command that writes a text. -/
def success (text : String) : Outcome := ⟨0, text ++ "\n", ""⟩

/-- The outcome of a command that fails. -/
def failure (message : String) : Outcome := ⟨1, "", "error: " ++ message ++ "\n"⟩

/-- The outcome of a command line that is wrong. -/
def usage (fault : UsageFault) : Outcome :=
  ⟨2, "", "error: " ++ fault.message ++ "\n\nFor more information, try '--help'.\n"⟩

/-- The outcome of a command whose text is made by a build. -/
def ofBuild (build : Build String) : Outcome :=
  match build.result with
  | .ok text => success text
  | .error failed => failure failed.message

end Outcome

/-- The name and version of the program. -/
def versionText : String := "sobject-jsonschema 0.1.0"

/-- The description of the command line. -/
def helpText : String :=
  "Generate JSON Schema (draft-04) from SObject describe metadata\n\n"
    ++ "Usage: sobject-jsonschema [OPTIONS] [DESCRIBE]\n\n"
    ++ "Arguments:\n"
    ++ "  [DESCRIBE]  Describe JSON file, or `-` for stdin\n\n"
    ++ "Options:\n"
    ++ "      --id-prefix <ID_PREFIX>  Prefix for generated schema identifiers [default: "
    ++ ({} : Settings).idPrefix ++ "]\n"
    ++ "      --no-query-schema        Skip the QueryRecords wrapper schema\n"
    ++ "      --compact                Emit compact JSON\n"
    ++ "      --api                    Emit the schema of the fixed REST API shapes instead\n"
    ++ "  -h, --help                   Print help\n"
    ++ "  -V, --version                Print version"

/-- The build of the text for the object that a text describes. -/
def objectOf (settings : Settings) (text : String) : Build String :=
  match Description.parse text with
  | .ok description => objectText settings description
  | .error error => throw (.invalidDescription error)

/-- The outcome of a request. -/
def Request.outcome (inputs : Inputs) : Request → Outcome
  | .version => .success versionText
  | .help => .success helpText
  | .interface layout => .ofBuild (interfaceText layout)
  | .object path settings =>
    match inputs.text path with
    | .error fault => .failure fault.message
    | .ok text => .ofBuild (objectOf settings text)

/-- The outcome of a command line. -/
def run (inputs : Inputs) (words : List String) : Outcome :=
  match Request.ofWords words with
  | .ok request => request.outcome inputs
  | .error fault => .usage fault

end Command

end RecordSchema
