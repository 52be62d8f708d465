import HamlTree.Directory
import HamlTree.Settings
import HamlTree.SourceContext
import HamlTree.Template
import HamlTree.Text.Utf8

/-!
# CommandLine -- the program on its arguments

The command `parse PATH` prints the tree of a template and `check PATH` only says whether there is
one. What a run prints and the code it ends with are an `Outcome`: 0 for success, 1 for a failure
with a message, 2 for arguments that make no sense. Files are read through a function that is given
to the run, so that the same run works on a file system and on a list of files.

What fails first is reported: settings, then the name of the format, then the file, then its content.
-/

set_option autoImplicit false

namespace HamlTree.CommandLine

/-! ## Arguments -/

/-- What is asked for. -/
inductive Request where
  | parse (path : String) (format config : Option String) (lineNumbers : Bool)
  | check (path : String)
  | version
  | help
deriving DecidableEq, Repr

/-- What is known of the arguments so far. -/
structure Arguments where
  path : Option String := none
  format : Option String := none
  config : Option String := none
  lineNumbers : Bool := false
deriving DecidableEq, Repr

/-- The options that take a value. -/
inductive Valued where
  | format
  | config
deriving DecidableEq, Repr

namespace Arguments

/-- Give an option its value, once. -/
def setValue? (arguments : Arguments) : Valued → String → Option Arguments
  | .format, value =>
    if arguments.format.isSome then none else some { arguments with format := some value }
  | .config, value =>
    if arguments.config.isSome then none else some { arguments with config := some value }

/-- Give the path, once. -/
def setPath? (arguments : Arguments) (path : String) : Option Arguments :=
  if arguments.path.isSome then none else some { arguments with path := some path }

/-- Set the switch for line numbers, once. -/
def setLineNumbers? (arguments : Arguments) : Option Arguments :=
  if arguments.lineNumbers then none else some { arguments with lineNumbers := true }

end Arguments

/-- What one argument is. -/
inductive Word where
  /-- From here on nothing is an option. -/
  | escape
  | positional (text : String)
  | switch
  | help
  /-- An option with its value in the same argument, or in the next one. -/
  | valued (option : Valued) (value : Option String)
  | unknown
deriving DecidableEq, Repr

/-- The option with this long name. -/
def longOption? (name : List Char) : Option Valued :=
  if name == "format".toList then some .format
  else if name == "config".toList then some .config
  else none

/-- The option with this letter. -/
def shortOption? : Char → Option Valued
  | 'f' => some .format
  | 'c' => some .config
  | _ => none

/-- An argument that starts with two dashes, behind them. -/
def longWord (hasOptions : Bool) (text : List Char) : Word :=
  let name := text.takeWhile (· != '=')
  let value :=
    match text.dropWhile (· != '=') with
    | '=' :: value => some (String.ofList value)
    | _ => none
  if name == "help".toList && value.isNone then .help
  else if !hasOptions then .unknown
  else if name == "line-numbers".toList && value.isNone then .switch
  else
    match longOption? name with
    | some option => .valued option value
    | none => .unknown

/-- An argument that starts with one dash, behind it. -/
def shortWord (hasOptions : Bool) (letter : Char) (text : List Char) : Word :=
  if letter == 'h' then .help
  else if !hasOptions then .unknown
  else
    match shortOption? letter, text with
    | none, _ => .unknown
    | some option, [] => .valued option none
    | some option, '=' :: value => .valued option (some (String.ofList value))
    | some option, value => .valued option (some (String.ofList value))

/-- What an argument of a command is. `hasOptions` says whether the command has options. -/
def word (hasOptions : Bool) (argument : String) : Word :=
  match argument.toList with
  | ['-', '-'] => .escape
  | '-' :: '-' :: text => longWord hasOptions text
  | '-' :: letter :: text => shortWord hasOptions letter text
  | _ => .positional argument

/-- The argument can be the value of the option before it. -/
def isValue (argument : String) : Bool :=
  match argument.toList with
  | '-' :: _ :: _ => false
  | _ => true

/-- Read paths that stand behind the escape. -/
def readPaths (arguments : Arguments) : List String → Option Arguments
  | [] => some arguments
  | path :: rest => (arguments.setPath? path).bind fun next => readPaths next rest

/-- The end of reading a command's arguments: the arguments, or a wish for help. -/
inductive Reading where
  | arguments (found : Arguments)
  | help
deriving DecidableEq, Repr

/-- Read the arguments of a command. -/
def readArguments (hasOptions : Bool) (arguments : Arguments) : List String → Option Reading
  | [] => some (.arguments arguments)
  | argument :: rest =>
    match word hasOptions argument with
    | .escape => (readPaths arguments rest).map .arguments
    | .positional path =>
      (arguments.setPath? path).bind fun next => readArguments hasOptions next rest
    | .switch => arguments.setLineNumbers?.bind fun next => readArguments hasOptions next rest
    | .help => some .help
    | .valued option (some value) =>
      (arguments.setValue? option value).bind fun next => readArguments hasOptions next rest
    | .valued option none =>
      match rest with
      | value :: more =>
        if isValue value then
          (arguments.setValue? option value).bind fun next => readArguments hasOptions next more
        else none
      | [] => none
    | .unknown => none

/-- What the arguments ask for, if they make sense. -/
def request? : List String → Option Request
  | "parse" :: rest =>
    match readArguments true {} rest with
    | some (.arguments ⟨some path, format, config, lineNumbers⟩) =>
      some (.parse path format config lineNumbers)
    | some .help => some .help
    | _ => none
  | "check" :: rest =>
    match readArguments false {} rest with
    | some (.arguments ⟨some path, _, _, _⟩) => some (.check path)
    | some .help => some .help
    | _ => none
  | ["help"] | ["help", "parse"] | ["help", "check"] | ["help", "help"] => some .help
  | first :: _ =>
    match first.toList with
    | '-' :: 'V' :: _ => some .version
    | '-' :: 'h' :: _ => some .help
    | _ =>
      if first == "--version" then some .version
      else if first == "--help" then some .help
      else none
  | [] => none

/-! ## Running -/

/-- What a run prints, and the code it ends with. -/
structure Outcome where
  exit : Nat
  stdout : List Char := []
  stderr : List Char := []
deriving DecidableEq, Repr

namespace Outcome

/-- A line of output. -/
def success (text : List Char) : Outcome :=
  { exit := 0, stdout := text ++ ['\n'] }

/-- A message about what failed. -/
def failure (message : String) : Outcome :=
  { exit := 1, stderr := "Error: ".toList ++ message.toList ++ ['\n'] }

/-- An error in a template, with the lines around it. -/
def refused (source : List Char) (error : SyntaxError) : Outcome :=
  { exit := 1
    stderr := "Syntax error: ".toList ++ (SyntaxError.display error).toList ++
      '\n' :: SourceContext.render source error.lineno }

end Outcome

/-- How the program is used. -/
def usage : List Char :=
  ("Parse Haml templates into an AST\n\nUsage: hamlp <COMMAND>\n\nCommands:\n" ++
   "  parse <path> [--format <format>] [--config <config>] [--line-numbers]\n" ++
   "  check <path>\n").toList

/-- The template in a file, read. -/
def parseBytes (path : String) (content : FileContent) : Except Outcome Arena :=
  match content with
  | .error error => .error (.failure ("Error reading file: " ++ error.message))
  | .ok bytes =>
    match Text.decode? bytes with
    | none => .error (.failure ("Error reading file: " ++ FileError.notText.message))
    | some source =>
      match Template.parse source (some path) with
      | .ok arena => .ok arena
      | .error error => .error (.refused source error)

/-- The layer of a settings file that was found. -/
def fileLayer (path : String) (bytes : List UInt8) : Settings.Layer :=
  match Text.decode? bytes with
  | some text => .file (Path.plain path) text
  | none => .unreadable .notText

/-- The format and the switches to show a tree with. -/
def chooseFormat (settings : OutputSettings) (format : Option String) :
    Except UnknownFormat Format :=
  match format with
  | some name => Format.ofName name
  | none => .ok settings.format

section

variable {m : Type → Type} [Monad m] (readFile : String → m FileContent)

/-- The layer of a settings file, which may be named without its ending. -/
def settingsLayer (path : String) : m Settings.Layer := do
  match ← readFile path with
  | .ok bytes => return fileLayer path bytes
  | .error _ =>
    match Path.withEnding? path ".toml" with
    | none => return .absent path false
    | some ended =>
      match ← readFile ended with
      | .ok bytes => return fileLayer ended bytes
      | .error _ => return .absent path false

/-- Print the tree of a template. -/
def runParse (path : String) (format config : Option String) (lineNumbers : Bool) :
    m Outcome := do
  let layers ← match config with
    | some file => pure [← settingsLayer readFile file]
    | none => pure []
  match Settings.load layers with
  | .error error => return .failure ("Invalid configuration: " ++ error.display)
  | .ok settings =>
    match chooseFormat settings format with
    | .error error => return .failure error.message
    | .ok chosen =>
      let options := { settings.renderOptions with
        lineNumbers := settings.lineNumbers || lineNumbers }
      match parseBytes path (← readFile path) with
      | .error outcome => return outcome
      | .ok arena => return .success (Text.trimEnd (Format.render arena chosen options))

/-- Say whether a template can be read. -/
def runCheck (path : String) : m Outcome := do
  match parseBytes path (← readFile path) with
  | .error outcome => return outcome
  | .ok arena =>
    return .success
      (path.toList ++ ": ok (".toList ++ (arena.size - 1).repr.toList ++ " nodes)".toList)

/-- Run the program. -/
def run (arguments : List String) : m Outcome :=
  match request? arguments with
  | none => return { exit := 2, stderr := usage }
  | some .help => return { exit := 0, stdout := usage }
  | some .version => return .success "hamlp 0.1.0".toList
  | some (.parse path format config lineNumbers) =>
    runParse readFile path format config lineNumbers
  | some (.check path) => runCheck readFile path

end

end HamlTree.CommandLine
