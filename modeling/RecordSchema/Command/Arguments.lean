import RecordSchema.Json.Text
import RecordSchema.Settings

/-!
# Arguments

The words of a command line. Options may stand in any order, each at most once, and are not
abbreviated; the words behind `--` are not options. The first word that cannot stand where it
does decides, unless a request for the version or for help stands before it.
-/

namespace RecordSchema

namespace Command

/-- What is wrong with the words of a command line. -/
inductive UsageFault where
  | unknownOption (word : String)
  /-- An option is given twice. -/
  | repeated (option : String)
  /-- An option that takes no value has one. -/
  | valueNotWanted (option : String)
  /-- An option that takes a value has none. -/
  | valueMissing (option : String)
  | emptyPath
  /-- There is a second path. -/
  | unwantedPath (path : String)
  | pathMissing
  /-- A path is given although nothing is read. -/
  | pathConflict

/-- What is wrong with the words of a command line, in words. -/
def UsageFault.message : UsageFault → String
  | .unknownOption word => "unexpected argument '" ++ word ++ "' found"
  | .repeated option => "the argument '" ++ option ++ "' cannot be used multiple times"
  | .valueNotWanted option => "unexpected value for '" ++ option ++ "' found"
  | .valueMissing option => "a value is required for '" ++ option ++ "' but none was supplied"
  | .emptyPath => "a value is required for '[DESCRIBE]' but none was supplied"
  | .unwantedPath path => "unexpected argument '" ++ path ++ "' found"
  | .pathMissing => "the following required arguments were not provided: <DESCRIBE>"
  | .pathConflict => "the argument '--api' cannot be used with '[DESCRIBE]'"

/-- The options that take no value. -/
inductive Switch where
  | noQuery
  | compact
  | interface
deriving DecidableEq

/-- The word of a switch. -/
def Switch.word : Switch → String
  | .noQuery => "--no-query-schema"
  | .compact => "--compact"
  | .interface => "--api"

/-- What the words of a command line have said so far. -/
structure Options where
  path : Option String := none
  idPrefix : Option String := none
  switches : List Switch := []
deriving Inhabited

/-- What is asked for. -/
inductive Request where
  | version
  | help
  /-- The schemas of the interface. -/
  | interface (layout : Json.Layout)
  /-- The schemas of the object that is described at a path. -/
  | object (path : String) (settings : Settings)

namespace Options

/-- Whether a switch has been given. -/
def has (options : Options) (switch : Switch) : Bool := options.switches.contains switch

/-- The options with a switch that has not been given before. -/
def addSwitch (options : Options) (switch : Switch) : Except UsageFault Options :=
  if options.has switch then .error (.repeated switch.word)
  else .ok { options with switches := switch :: options.switches }

/-- The word of the option that gives the start of all identifiers. -/
def prefixWord : String := "--id-prefix"

/-- The options with a start of all identifiers, which has not been given before. -/
def addPrefix (options : Options) (value : String) : Except UsageFault Options :=
  match options.idPrefix with
  | some _ => .error (.repeated prefixWord)
  | none => .ok { options with idPrefix := some value }

/-- The options with a path, which has not been given before. -/
def addPath (options : Options) (path : String) : Except UsageFault Options :=
  match options.path with
  | some _ => .error (.unwantedPath path)
  | none => if path.isEmpty then .error .emptyPath else .ok { options with path := some path }

/-- The options with several paths. -/
def addPaths (options : Options) : List String → Except UsageFault Options
  | [] => .ok options
  | path :: rest => do addPaths (← options.addPath path) rest

/-- The layout that the options ask for. -/
def layout (options : Options) : Json.Layout :=
  if options.has .compact then .compact else .pretty

/-- The settings that the options ask for. -/
def settings (options : Options) : Settings where
  idPrefix := options.idPrefix.getD ({} : Settings).idPrefix
  addQuery := !options.has .noQuery
  pretty := !options.has .compact

/-- What all the options together ask for. A path is needed except for the interface. -/
def request (options : Options) : Except UsageFault Request :=
  match options.path with
  | none =>
    if options.has .interface then .ok (.interface options.layout) else .error .pathMissing
  | some path =>
    if options.has .interface then .error .pathConflict
    else .ok (.object path options.settings)

end Options

/-! ### Words -/

/-- The kinds of words. -/
inductive Word where
  | path (path : String)
  /-- The options end here. -/
  | dashes
  | switch (switch : Switch)
  /-- The start of all identifiers; without a value, the next word gives it. -/
  | idPrefix (value : Option String)
  | version
  | help
  | wrong (fault : UsageFault)

/-- The option with a name, which may have a value behind an equals sign. -/
def option (name : String) (value : Option String) : Word :=
  let bare (word : Word) : Word :=
    match value with
    | none => word
    | some _ => .wrong (.valueNotWanted name)
  if name = Switch.noQuery.word then bare (.switch .noQuery)
  else if name = Switch.compact.word then bare (.switch .compact)
  else if name = Switch.interface.word then bare (.switch .interface)
  else if name = Options.prefixWord then .idPrefix value
  else if name = "--version" then bare .version
  else if name = "--help" then bare .help
  else .wrong (.unknownOption name)

/-- A word of the command line. A dash alone is a path, and of several letters behind one dash
the first decides. -/
def Word.of (text : String) : Word :=
  match text.toList with
  | ['-', '-'] => .dashes
  | '-' :: '-' :: _ =>
    let name := text.toList.takeWhile (· ≠ '=')
    match text.toList.dropWhile (· ≠ '=') with
    | [] => option text none
    | _ :: value => option (String.ofList name) (some (String.ofList value))
  | '-' :: letter :: _ =>
    if letter = 'V' then .version
    else if letter = 'h' then .help
    else .wrong (.unknownOption text)
  | _ => .path text

/-- Whether a word can be the value of the option before it. -/
def isValue (text : String) : Bool :=
  match text.toList with
  | '-' :: _ :: _ => false
  | _ => true

/-- What the words of a command line ask for, given what those before have said. -/
def requestFrom (options : Options) : List String → Except UsageFault Request
  | [] => options.request
  | text :: rest =>
    match Word.of text with
    | .path path => do requestFrom (← options.addPath path) rest
    | .dashes => do (← options.addPaths rest).request
    | .switch switch => do requestFrom (← options.addSwitch switch) rest
    | .idPrefix (some value) => do requestFrom (← options.addPrefix value) rest
    | .idPrefix none =>
      match rest with
      | [] => .error (.valueMissing Options.prefixWord)
      | value :: rest =>
        if isValue value then do requestFrom (← options.addPrefix value) rest
        else .error (.valueMissing Options.prefixWord)
    | .version => .ok .version
    | .help => .ok .help
    | .wrong fault => .error fault

/-- What the words of a command line ask for. -/
def Request.ofWords (words : List String) : Except UsageFault Request := requestFrom {} words

end Command

end RecordSchema
