import ModalKeys.Settings.File

/-!
# Command line options

The arguments after the program's name. A repeated option or text overrides the one before it.
-/

namespace ModalKeys

structure Options where
  settingsPath : Option String
  logPath : Option String
  noIntrospection : Bool
  text : Option String
deriving DecidableEq, Repr

namespace Options

def unset : Options := ⟨none, none, false, none⟩

inductive Fault where
  | pathMissing (option : String)
  | unknown (option : String)
deriving DecidableEq, Repr

def Fault.message : Fault → String
  | .pathMissing option => option ++ " requires a path"
  | .unknown option => "unknown option: " ++ option

/-- Reads arguments from left to right; the first fault ends the reading. -/
def read (options : Options) : List String → Except Fault Options
  | [] => .ok options
  | "--config" :: path :: rest => read { options with settingsPath := some path } rest
  | "--log" :: path :: rest => read { options with logPath := some path } rest
  | argument :: rest =>
      if argument = "--config" ∨ argument = "--log" then .error (.pathMissing argument)
      else if argument = "--no-introspection" then read { options with noIntrospection := true } rest
      else if argument.startsWith "-" then .error (.unknown argument)
      else read { options with text := some argument } rest

end Options

/-- What a command line asks for. Help comes before the version, and both before all else. -/
inductive Request where
  | help
  | version
  | session (options : Options)
deriving DecidableEq, Repr

def Request.read (arguments : List String) : Except Options.Fault Request :=
  if "-h" ∈ arguments ∨ "--help" ∈ arguments then .ok .help
  else if "-V" ∈ arguments ∨ "--version" ∈ arguments then .ok .version
  else (Options.unset.read arguments).map .session

namespace Settings

/-- Settings for a session, with a warning if they could not be loaded. A file named on the command
line has to be good; the one at the usual place is passed over when it is not. -/
def forSession (options : Options) (usualPath : Option String) (contents : Except FileFault String) :
    Except LoadError (Settings × Option String) :=
  let adjusted (s : Settings) : Settings :=
    let s := if s.fault?.isSome then usual else s
    if options.noIntrospection then { s with introspection := false } else s
  match options.settingsPath with
  | some path => (load path contents).map fun s => (adjusted s, .none)
  | none =>
      match loadUsual usualPath contents with
      | .ok s => .ok (adjusted s, .none)
      | .error e => .ok (adjusted usual, some ("Warning: Failed to load config: " ++ e.chain ++ "\n"))

end Settings

end ModalKeys
