import ModalKeys.CommandLine.Program

/-!
# The program

The outer layer: it connects the steps of the program to real files, variables and streams.
-/

namespace ModalKeys

/-- The number of an error, which some calls report negated. -/
def errorNumber (code : UInt32) : UInt32 := min code (0 - code)

def fileFault (e : IO.Error) : FileFault :=
  match e with
  | .noFileOrDirectory .. => .missing
  | .inappropriateType _ code _ => if errorNumber code = 20 then .notDirectory else .isDirectory
  | .invalidArgument _ code _ => if errorNumber code = 36 then .nameTooLong else .other e.toString
  | e => .other e.toString

def systemHost (tempDir : String) : Host IO where
  environment := return {
    settingsDir := ← IO.getEnv "VIMTAP_CONFIG_DIR"
    sharedDir := ← IO.getEnv "XDG_CONFIG_HOME"
    homeDir := ← IO.getEnv "HOME"
    accountDir := none }
  contents path := do
    try
      match String.fromUTF8? (← IO.FS.readBinFile path) with
      | some text => return .ok text
      | none => return .error .notText
    catch e => return .error (fileFault e)
  makeFile path := do
    try
      IO.FS.writeFile path ""
      return none
    catch e => return some (fileFault e)
  usualLogPath := joinPath tempDir "vimtap.log"

def report (ending : Ending) : IO UInt32 := do
  IO.print ending.output
  IO.eprint ending.errors
  return ending.code.toUInt32

end ModalKeys

def main (arguments : List String) : IO UInt32 := do
  let tempDir := (← IO.getEnv "TMPDIR").getD "/tmp"
  match ← ModalKeys.Program.start (ModalKeys.systemHost tempDir) arguments with
  | .ended ending => ModalKeys.report ending
  | .session _ _ warnings => ModalKeys.report (.noTerminal warnings)
