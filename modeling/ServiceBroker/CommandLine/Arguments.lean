import ServiceBroker.Text.Split

/-!
# Command line arguments

## Main definitions

* `CommandLine.Command`: what the arguments ask for
* `CommandLine.parse`: the command that arguments spell
* `CommandLine.help`, `CommandLine.versionText`: what the program says about itself
-/

namespace ServiceBroker.CommandLine

/-- What the arguments ask for. The path of the settings may be left to the environment. -/
inductive Command where
  | help
  | version
  | serve (settingsPath : Option String)
  deriving DecidableEq, Repr

/-- What is wrong with arguments. -/
inductive Defect where
  | unexpected (argument : String)
  | noValue
  | repeated
  | valueOfFlag (flag value : String)
  deriving DecidableEq, Repr

/-- How the option for the path of the settings is shown. -/
def settingsOption : String := "--config <CONFIG>"

/-- The wording of a defect. -/
def Defect.message : Defect → String
  | .unexpected argument => s!"unexpected argument '{argument}' found"
  | .noValue => s!"a value is required for '{settingsOption}' but none was supplied"
  | .repeated => s!"the argument '{settingsOption}' cannot be used multiple times"
  | .valueOfFlag flag value =>
    s!"unexpected value '{value}' for '{flag}' found; no more were expected"

/-- What is left to do after an argument. -/
inductive Step where
  | value (text : String)
  | nextValue
  | finish (c : Command)
  | fail (d : Defect)
  deriving DecidableEq, Repr

/-- What a word after two hyphens asks for, with its value if one is attached. -/
def long (name : String) (value? : Option String) : Step :=
  match name, value? with
  | "config", some value => .value value
  | "config", none => .nextValue
  | "help", none => .finish .help
  | "version", none => .finish .version
  | "help", some value => .fail (.valueOfFlag "--help" value)
  | "version", some value => .fail (.valueOfFlag "--version" value)
  | name, _ => .fail (.unexpected ("--" ++ name))

/-- What letters after one hyphen ask for. -/
def short : List Char → Step
  | 'c' :: [] => .nextValue
  | 'c' :: '=' :: value => .value (String.ofList value)
  | 'c' :: value => .value (String.ofList value)
  | 'h' :: _ => .finish .help
  | 'V' :: _ => .finish .version
  | c :: _ => .fail (.unexpected (String.ofList ['-', c]))
  | [] => .fail (.unexpected "-")

/-- What an argument asks for. -/
def step (argument : List Char) : Step :=
  match argument with
  | '-' :: '-' :: word =>
    let (name, value) := cutAt (· == '=') word
    long (String.ofList name) (if word.contains '=' then some (String.ofList value) else none)
  | '-' :: c :: letters => short (c :: letters)
  | _ => .fail (.unexpected (String.ofList argument))

/-- The argument can be the value of an option. -/
def isValue (argument : String) : Bool :=
  match argument.toList with
  | '-' :: _ :: _ => false
  | _ => true

/-- After two hyphens alone nothing may follow. -/
def onlyPositional (settingsPath : Option String) : List String → Except Defect Command
  | [] => .ok (.serve settingsPath)
  | argument :: _ => .error (.unexpected argument)

/-- The command that arguments spell, given the path of the settings if it was named already. -/
def parseFrom (settingsPath : Option String) : List String → Except Defect Command
  | [] => .ok (.serve settingsPath)
  | argument :: rest =>
    if argument = "--" then onlyPositional settingsPath rest
    else
      match step argument.toList with
      | .finish command => .ok command
      | .fail defect => .error defect
      | .value text =>
        if settingsPath.isSome then .error .repeated else parseFrom (some text) rest
      | .nextValue =>
        match rest with
        | [] => .error .noValue
        | "--" :: argument :: _ => .error (.unexpected argument)
        | text :: rest =>
          if !isValue text then .error .noValue
          else if settingsPath.isSome then .error .repeated
          else parseFrom (some text) rest

/-- The command that arguments spell. -/
def parse (arguments : List String) : Except Defect Command := parseFrom none arguments

/-- The name of the program. -/
def programName : String := "osbridged"

/-- What the program says on its version. -/
def versionText (version : String) : String := s!"{programName} {version}"

/-- The path of the settings if none is named. -/
def standardSettingsPath : String := "config/broker.toml"

/-- The environment variable that names the path of the settings. -/
def settingsVariable : String := "OSBRIDGE_CONFIG"

/-- What the program says about itself. -/
def help (environmentPath : Option String) : List String :=
  let current := settingsVariable ++ "=" ++ environmentPath.getD ""
  ["Open Service Broker HTTP front end for the osbridge service broker",
  "",
  s!"Usage: {programName} [OPTIONS]",
  "",
  "Options:",
  s!"  -c, {settingsOption}  Path to configuration file [env: {current}] " ++
    s!"[default: {standardSettingsPath}]",
  "  -h, --help             Print help",
  "  -V, --version          Print version"]

end ServiceBroker.CommandLine
