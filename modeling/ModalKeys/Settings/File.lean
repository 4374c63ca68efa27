import ModalKeys.Settings.Decode

/-!
# The settings file

Where the file is, and how its contents become settings or an error. An error has an outer message,
which names the file, and perhaps a cause.
-/

namespace ModalKeys

inductive FileFault where
  | missing
  | notDirectory
  | isDirectory
  | nameTooLong
  | notText
  | other (message : String)
deriving DecidableEq, Repr

def FileFault.message : FileFault → String
  | .missing => "No such file or directory (os error 2)"
  | .notDirectory => "Not a directory (os error 20)"
  | .isDirectory => "Is a directory (os error 21)"
  | .nameTooLong => "File name too long (os error 36)"
  | .notText => "stream did not contain valid UTF-8"
  | .other message => message

def FileFault.isAbsence : FileFault → Bool
  | .missing | .notDirectory | .nameTooLong => true
  | .isDirectory | .notText | .other _ => false

structure Environment where
  settingsDir : Option String
  sharedDir : Option String
  homeDir : Option String
  /-- The home directory that the account itself names. -/
  accountDir : Option String
deriving DecidableEq, Repr

/-- A name in a directory. An absolute name stands alone, and so does any name in no directory. -/
def joinPath (dir name : String) : String :=
  if name.startsWith "/" || dir.isEmpty then name
  else if dir.endsWith "/" then dir ++ name
  else dir ++ "/" ++ name

namespace Environment

/-- The home directory; an empty variable counts as unset. -/
def home? (env : Environment) : Option String :=
  match env.homeDir with
  | some home => if home.isEmpty then env.accountDir else some home
  | none => env.accountDir

/-- The directory for the settings of all programs: the shared one if it is absolute, else the usual
one in the home directory. -/
def programsDir? (env : Environment) : Option String :=
  match env.sharedDir with
  | some dir => if dir.startsWith "/" then some dir else ofHome
  | none => ofHome
where
  ofHome : Option String := env.home?.map (joinPath · ".config")

def dir? (env : Environment) : Option String :=
  match env.settingsDir with
  | some dir => some dir
  | none => env.programsDir?.map (joinPath · "vimtap")

def path? (env : Environment) : Option String := env.dir?.map (joinPath · "config.toml")

end Environment

namespace Settings

inductive LoadError where
  | unreadable (path : String) (fault : FileFault)
  | malformed (path : String)
  | invalid (path : String) (fault : Fault)
deriving DecidableEq, Repr

namespace LoadError

def message : LoadError → String
  | .unreadable path _ => "Failed to read config file: " ++ path
  | .malformed path => "Failed to parse config file: " ++ path
  | .invalid path _ => "Invalid config file: " ++ path

def cause? : LoadError → Option String
  | .unreadable _ fault => some fault.message
  | .malformed _ => none
  | .invalid _ fault => some fault.message

def chain (e : LoadError) : String :=
  match e.cause? with
  | some cause => e.message ++ ": " ++ cause
  | none => e.message

end LoadError

def load (path : String) (contents : Except FileFault String) : Except LoadError Settings :=
  match contents with
  | .error fault => .error (.unreadable path fault)
  | .ok text =>
      match ofText? text.toList with
      | none => .error (.malformed path)
      | some settings =>
          match settings.fault? with
          | some fault => .error (.invalid path fault)
          | none => .ok settings

/-- Settings from the file at its usual place, where the absence of a file means the usual settings. -/
def loadUsual (path : Option String) (contents : Except FileFault String) :
    Except LoadError Settings :=
  match path, contents with
  | none, _ => .ok usual
  | some path, .error fault => if fault.isAbsence then .ok usual else load path (.error fault)
  | some path, .ok text => load path (.ok text)

end Settings

end ModalKeys
