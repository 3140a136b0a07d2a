import Domotics.Settings.Basic
/-!
# The command line

The options of the program. An option has a long name and may have a letter; one that takes a value
has it after an equals sign, in the next word, or right behind its letter. Each option is given at
most once, and there is nothing but options.
-/

namespace Domotics

/-- The options. -/
inductive ProgramOption where
  | url
  | config
  | username
  | password
  | listenAll
  | noAutoConnect
  | initConfig
  | help
deriving DecidableEq

namespace ProgramOption

def all : List ProgramOption :=
  [url, config, username, password, listenAll, noAutoConnect, initConfig, help]

def name : ProgramOption → String
  | url => "url"
  | config => "config"
  | username => "username"
  | password => "password"
  | listenAll => "listen-all"
  | noAutoConnect => "no-auto-connect"
  | initConfig => "init-config"
  | help => "help"

def letter? : ProgramOption → Option Char
  | username => some 'u'
  | password => some 'p'
  | help => some 'h'
  | _ => none

def takesValue : ProgramOption → Bool
  | url | config | username | password => true
  | listenAll | noAutoConnect | initConfig | help => false

/-- Whether a value will do. A file has a name. -/
def accepts : ProgramOption → String → Bool
  | config, value => value ≠ ""
  | _, _ => true

end ProgramOption

/-- Why a command line is not understood. -/
inductive UsageError where
  | unexpected (word : String)
  | missingValue (option : ProgramOption)
  | unexpectedValue (option : ProgramOption)
  | repeated (option : ProgramOption)
deriving DecidableEq

/-- The wording of an error. -/
def UsageError.message : UsageError → String
  | unexpected word => s!"unexpected argument '{word}' found"
  | missingValue option => s!"a value is required for '--{option.name}' but none was supplied"
  | unexpectedValue option => s!"unexpected value for '--{option.name}' found"
  | repeated option => s!"the argument '--{option.name}' cannot be used multiple times"

/-- The options that were given, each with its value; one without a value has an empty one. -/
abbrev GivenOptions := List (ProgramOption × String)

namespace CommandLine

/-- What has been understood of a command line. -/
inductive Reading where
  | options (given : GivenOptions)
  /-- Help was asked for; what follows does not matter. -/
  | help
deriving DecidableEq

/-- Adds an option. -/
def give (given : GivenOptions) (option : ProgramOption) (value : String) :
    Except UsageError GivenOptions :=
  if (given.lookup option).isSome then .error (.repeated option)
  else if !option.accepts value then .error (.missingValue option)
  else .ok (given ++ [(option, value)])

/-- A word that can be the value of an option before it. -/
def isValue (word : String) : Bool :=
  word = "-" ∨ !word.startsWith "-"

/-- The options that a word of letters names. The last one may have its value behind it, or still
need one. -/
def readLetters (word : String) (given : GivenOptions) :
    List Char → Except UsageError (Reading × Option ProgramOption)
  | [] => .ok (.options given, none)
  | c :: rest =>
    match ProgramOption.all.find? fun option => option.letter? = some c with
    | none => .error (.unexpected word)
    | some .help => .ok (.help, none)
    | some option =>
      if option.takesValue then
        match rest with
        | [] => .ok (.options given, some option)
        | '=' :: value | value =>
          (give given option (String.ofList value)).map fun given => (.options given, none)
      else do readLetters word (← give given option "") rest

/-- Reads an option that a long name begins. -/
def readName (word : String) (given : GivenOptions) (body : List Char) :
    Except UsageError (Reading × Option ProgramOption) :=
  let name := String.ofList (body.takeWhile (· ≠ '='))
  let value? := match body.dropWhile (· ≠ '=') with
    | [] => none
    | _ :: value => some (String.ofList value)
  match ProgramOption.all.find? fun option => option.name = name with
  | none => .error (.unexpected word)
  | some option =>
    match option.takesValue, value? with
    | false, some _ => .error (.unexpectedValue option)
    | false, none =>
      if option = .help then .ok (.help, none)
      else (give given option "").map fun given => (.options given, none)
    | true, some value => (give given option value).map fun given => (.options given, none)
    | true, none => .ok (.options given, some option)

/-- Reads the words of a command line; `awaiting` is an option that still needs its value. -/
def readWords (given : GivenOptions) (awaiting : Option ProgramOption) :
    List String → Except UsageError Reading
  | [] =>
    match awaiting with
    | some option => .error (.missingValue option)
    | none => .ok (.options given)
  | word :: rest =>
    match awaiting with
    | some option => do
      if !isValue word then throw (.missingValue option)
      readWords (← give given option word) none rest
    | none => do
      let (reading, awaiting) ← match word.toList with
        | ['-', '-'] =>
          match rest with
          | [] => .ok (.options given, none)
          | next :: _ => .error (.unexpected next)
        | '-' :: '-' :: body => readName word given body
        | ['-'] => .error (.unexpected word)
        | '-' :: letters => readLetters word given letters
        | _ => .error (.unexpected word)
      match reading with
      | .help => return .help
      | .options given => readWords given awaiting rest

/-- Reads a command line. -/
def read (words : List String) : Except UsageError Reading :=
  readWords [] none words

end CommandLine

/-- Settings with those that the command line decides otherwise. -/
def Settings.withOptions (settings : Settings) (given : GivenOptions) : Settings :=
  let server : ServerSettings :=
    { url := (given.lookup .url).getD settings.server.url
      autoConnect := settings.server.autoConnect ∧ (given.lookup .noAutoConnect).isNone }
  let login : Credentials :=
    { username := (given.lookup .username).getD settings.login.username
      password := (given.lookup .password).getD settings.login.password }
  let behavior : BehaviorSettings :=
    { listenAll := settings.behavior.listenAll ∨ (given.lookup .listenAll).isSome }
  { settings with server, login, behavior }

end Domotics
