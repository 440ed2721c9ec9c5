import SqlLineage.Config
import SqlLineage.Text.Style
import SqlLineage.Text.Terminal

/-! The command line: what is asked for, and what is wrong with a line that asks for nothing. -/

namespace SqlLineage.Command

structure ParseOptions where
  path : String := ""
  dialect : Option String := none
  format : Option Format := none
  focus : List String := []
  config : Option String := none
  outputDir : Option String := none
  deriving DecidableEq, Repr

inductive Invocation
  | parse (options : ParseOptions)
  | dialects
  | version
  /-- The version in one line. -/
  | versionFlag
  | help
  deriving DecidableEq, Repr

/-- What takes a value. -/
inductive Slot
  | path
  | dialect
  | format
  | focus
  | config
  | outputDir
  deriving DecidableEq, Repr

def Slot.text : Slot → String
  | path => "<PATH>"
  | dialect => "--dialect <DIALECT>"
  | format => "--format <FORMAT>"
  | focus => "--focus <FOCUS>"
  | config => "--config <CONFIG>"
  | outputDir => "--output-dir <OUTPUT_DIR>"

def longSlots : List (String × Slot) :=
  [("dialect", .dialect), ("format", .format), ("focus", .focus), ("config", .config),
    ("output-dir", .outputDir)]

def shortSlots : List (Char × Slot) :=
  [('d', .dialect), ('f', .format), ('c', .config), ('o', .outputDir)]

inductive UsageError
  /-- Nothing is given at all. -/
  | nothing
  | noCommand
  | unknownCommand (name : String)
  | missingPath
  | unexpected (argument : String)
  | valueMissing (slot : Slot)
  | invalidValue (value : String) (slot : Slot)
  | repeated (what : String)
  | unexpectedValue (value flag : String)
  deriving DecidableEq, Repr

def about : String := "dataflow - SQL lineage extraction"

/-- How a part of a message is shown. -/
inductive Tone
  | plain
  /-- What is wrong. -/
  | wrong
  /-- An option that is all right. -/
  | option
  deriving DecidableEq, Repr

def Tone.show (color : Bool) (tone : Tone) (text : String) : String :=
  match tone with
  | plain => text
  | wrong => if color then Text.Style.yellow.start ++ text ++ Text.styleEnd else text
  | option => if color then Text.Style.bold.start ++ text ++ Text.styleEnd else text

/-- The message without the word that starts it. -/
def UsageError.parts : UsageError → List (Tone × String)
  | nothing => [(.plain, about)]
  | noCommand =>
    [(.plain, "'"), (.wrong, "dataflow"),
      (.plain, "' requires a subcommand but one was not provided")]
  | unknownCommand name =>
    [(.plain, "unrecognized subcommand '"), (.wrong, name), (.plain, "'")]
  | missingPath => [(.plain, "the following required arguments were not provided:")]
  | unexpected argument =>
    [(.plain, "unexpected argument '"), (.wrong, argument), (.plain, "' found")]
  | valueMissing slot =>
    [(.plain, "a value is required for '"), (.wrong, slot.text),
      (.plain, "' but none was supplied")]
  | invalidValue value slot =>
    [(.plain, "invalid value '"), (.wrong, value), (.plain, "' for '"), (.option, slot.text),
      (.plain, "'")]
  | repeated what =>
    [(.plain, "the argument '"), (.wrong, what), (.plain, "' cannot be used multiple times")]
  | unexpectedValue value flag =>
    [(.plain, "unexpected value '"), (.wrong, value), (.plain, "' for '"), (.option, flag),
      (.plain, "' found; no more were expected")]

/-- The first line of the message. -/
def UsageError.message (color : Bool) (e : UsageError) : String :=
  let text := String.join (e.parts.map fun (tone, text) => tone.show color text)
  let label := if color then
      Text.Style.bold.start ++ Text.Style.red.start ++ "error:" ++ Text.styleEnd
    else "error:"
  match e with
  | nothing => text
  | _ => if color then label ++ " " ++ text else Text.shownText (label ++ " " ++ text)

/-! ### Reading -/

/-- An argument by its looks. -/
inductive Shape
  /-- Two dashes: only values follow. -/
  | separator
  | long (name : String) (value : Option String)
  | short (letters : List Char)
  | plain

def shape (argument : String) : Shape :=
  match argument.toList with
  | ['-', '-'] => .separator
  | '-' :: '-' :: rest =>
    let name := String.ofList (rest.takeWhile (· != '='))
    match rest.dropWhile (· != '=') with
    | [] => .long name none
    | _ :: value => .long name (some (String.ofList value))
  | '-' :: c :: rest => .short (c :: rest)
  | _ => .plain

/-- Options read so far; a value that waits is looked at when the next thing comes. -/
structure Line where
  options : ParseOptions := {}
  verbose : Bool := false
  hasPath : Bool := false
  /-- An option or the path, with its value if that is read. -/
  waiting : Option (Slot × Option String) := none
  onlyValues : Bool := false

abbrev Step (α : Type) := Except UsageError α

def setSlot (line : Line) (slot : Slot) (value : String) : Step Line := do
  let o := line.options
  let once (set : Bool) : Step Unit := if set then throw (.repeated slot.text) else pure ()
  let filled : Step Unit := if value.isEmpty then throw (.valueMissing slot) else pure ()
  match slot with
  | .path =>
    filled
    return { line with options := { o with path := value }, hasPath := true }
  | .dialect =>
    once o.dialect.isSome
    return { line with options := { o with dialect := some value } }
  | .focus => return { line with options := { o with focus := o.focus ++ [value] } }
  | .config =>
    once o.config.isSome
    filled
    return { line with options := { o with config := some value } }
  | .outputDir =>
    once o.outputDir.isSome
    filled
    return { line with options := { o with outputDir := some value } }
  | .format =>
    once o.format.isSome
    filled
    match Format.all.find? (·.name == value) with
    | some f => return { line with options := { o with format := some f } }
    | none => throw (.invalidValue value slot)

/-- Looks at what waits. -/
def settle (line : Line) : Step Line :=
  match line.waiting with
  | none => .ok line
  | some (slot, none) => .error (.valueMissing slot)
  | some (slot, some value) => setSlot { line with waiting := none } slot value

def setVerbose (line : Line) : Step Line := do
  let line ← settle line
  if line.verbose then throw (.repeated "--verbose")
  return { line with verbose := true }

/-- What stops the reading at once. -/
inductive Found
  | line (line : Line)
  | stop (invocation : Invocation)

/-- Letters after one dash: flags, and then an option with the rest as its value. -/
def readShort (slots : List (Char × Slot)) (line : Line) : List Char → Step Found
  | [] => .ok (.line line)
  | c :: rest => do
    match slots.lookup c with
    | some slot =>
      let line ← settle line
      match rest with
      | [] => return .line { line with waiting := some (slot, none) }
      | '=' :: value => .line <$> setSlot line slot (String.ofList value)
      | value => .line <$> setSlot line slot (String.ofList value)
    | none =>
      if c == 'v' then readShort slots (← setVerbose line) rest
      else
        let _ ← settle line
        if c == 'h' then return .stop .help
        throw (.unexpected ("-" ++ String.singleton c))

def readLong (slots : List (String × Slot)) (line : Line) (name : String)
    (value : Option String) : Step Found := do
  let line ← settle line
  match slots.lookup name, value with
  | some slot, none => return .line { line with waiting := some (slot, none) }
  | some slot, some v => .line <$> setSlot line slot v
  | none, value =>
    if name != "verbose" && name != "help" then throw (.unexpected ("--" ++ name))
    match value with
    | some v => throw (.unexpectedValue v ("--" ++ name))
    | none => if name == "help" then return .stop .help else .line <$> setVerbose line

/-- A value: of the option that waits, or the path. -/
def readValue (takesPath : Bool) (line : Line) (value : String) : Step Found := do
  match line.waiting, line.onlyValues with
  | some (slot, none), false => return .line { line with waiting := some (slot, some value) }
  | _, _ =>
    let line ← settle line
    if !takesPath || line.hasPath then throw (.unexpected value)
    return .line { line with waiting := some (.path, some value) }

/-- The arguments of a command. -/
def readAll (takesPath : Bool) (line : Line) : List String → Step Found
  | [] => .line <$> settle line
  | argument :: rest => do
    let found ←
      if line.onlyValues then readValue takesPath line argument
      else match shape argument with
        | .separator => pure (.line { line with onlyValues := true })
        | .long name value => readLong (if takesPath then longSlots else []) line name value
        | .short letters => readShort (if takesPath then shortSlots else []) line letters
        | .plain => readValue takesPath line argument
    match found with
    | .stop invocation => return .stop invocation
    | .line line => readAll takesPath line rest

def commandNames : List String := ["parse", "dialects", "version", "help"]

/-- A command with its arguments. -/
def readCommand (verbose : Bool) (name : String) (rest : List String) :
    Step (Invocation × Bool) := do
  if name == "help" then
    match rest with
    | [] => return (.help, verbose)
    | topic :: more =>
      if !commandNames.contains topic then throw (.unknownCommand topic)
      match more with
      | [] => return (.help, verbose)
      | excess :: _ => throw (.unknownCommand excess)
  match ← readAll (name == "parse") {} rest with
  | .stop invocation => return (invocation, verbose)
  | .line line =>
    let verbose := verbose || line.verbose
    if name == "dialects" then return (.dialects, verbose)
    if name == "version" then return (.version, verbose)
    if !line.hasPath then throw .missingPath
    return (.parse line.options, verbose)

/-- Letters after one dash before the command. -/
def leadingShort (verbose : Bool) : List Char → Step (Option Invocation × Bool)
  | [] => .ok (none, verbose)
  | c :: rest =>
    if c == 'v' then
      if verbose then .error (.repeated "--verbose") else leadingShort true rest
    else if c == 'V' then .ok (some .versionFlag, verbose)
    else if c == 'h' then .ok (some .help, verbose)
    else .error (.unexpected ("-" ++ String.singleton c))

def leadingLong (verbose : Bool) (name : String) (value : Option String) :
    Step (Option Invocation × Bool) :=
  let flag (result : Option Invocation × Bool) : Step (Option Invocation × Bool) :=
    match value with
    | none => .ok result
    | some v => .error (.unexpectedValue v ("--" ++ name))
  if name == "verbose" then
    if verbose && value.isNone then .error (.repeated "--verbose") else flag (none, true)
  else if name == "version" then flag (some .versionFlag, verbose)
  else if name == "help" then flag (some .help, verbose)
  else .error (.unexpected ("--" ++ name))

/-- What comes before the command, and the command. -/
def readLeading (verbose : Bool) : List String → Step (Invocation × Bool)
  | [] => .error (if verbose then .noCommand else .nothing)
  | argument :: rest => do
    match shape argument with
    | .separator =>
      match rest with
      | [] => throw (if verbose then .noCommand else .nothing)
      | name :: _ =>
        throw (if commandNames.contains name then .unexpected name else .unknownCommand name)
    | .plain =>
      if commandNames.contains argument then readCommand verbose argument rest
      else throw (.unknownCommand argument)
    | .long name value =>
      match ← leadingLong verbose name value with
      | (some invocation, verbose) => return (invocation, verbose)
      | (none, verbose) => readLeading verbose rest
    | .short letters =>
      match ← leadingShort verbose letters with
      | (some invocation, verbose) => return (invocation, verbose)
      | (none, verbose) => readLeading verbose rest

/-- What the arguments ask for, and whether they ask for a detailed log. -/
def readArguments (arguments : List String) : Except UsageError (Invocation × Bool) :=
  readLeading false arguments

end SqlLineage.Command
