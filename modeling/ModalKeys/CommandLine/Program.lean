import ModalKeys.CommandLine.Options

/-!
# The program up to its session

What the program does before it opens a terminal: it answers requests for help and for the version,
and reports faulty arguments, a log file that cannot be made and faulty settings. The files are
reached through a host, so that the same steps run against real and against described files.
-/

namespace ModalKeys

def sampleText : String := "the quick brown fox\njumps over the lazy dog\n"

def versionText : String := "vimtap 0.1.0\n"

def usageLines (settingsPath : Option String) : List String := [
    "vimtap - vim-style modal editing for plain text fields",
    "",
    "Usage: vimtap [OPTIONS] [TEXT]",
    "",
    "Arguments:",
    "  [TEXT]                Initial contents of the text field",
    "",
    "Options:",
    "  -h, --help            Print this help message",
    "  -V, --version         Print version information",
    "      --config <PATH>   Load configuration from PATH",
    "      --no-introspection",
    "                        Hide the field's text from the engine",
    "                        (word motions use native combos)",
    "      --log <PATH>      Write logs to PATH",
    "",
    "Environment Variables:",
    "  VIMTAP_LOG            Log filter (default: info)",
    "  VIMTAP_CONFIG_DIR     Override the config directory",
    "",
    "Configuration:"] ++
  (settingsPath.map fun path => "  Config file: " ++ path).toList ++
  ["", "Press Ctrl+C to quit."]

def usageText (settingsPath : Option String) : String :=
  String.join ((usageLines settingsPath).map (· ++ "\n"))

structure Ending where
  code : Nat
  output : String
  errors : String
deriving DecidableEq, Repr

def errorText (message : String) (cause : Option String) : String :=
  "Error: " ++ message ++ "\n" ++
    match cause with
    | some cause => "\nCaused by:\n    " ++ cause ++ "\n"
    | none => ""

/-- An ending after an error. Nothing but warnings has been written before. -/
def Ending.failed (warnings message : String) (cause : Option String) : Ending :=
  ⟨1, "", warnings ++ errorText message cause⟩

structure Host (m : Type → Type) where
  environment : m Environment
  contents : String → m (Except FileFault String)
  /-- Makes an empty file, or says why it cannot be made. -/
  makeFile : String → m (Option FileFault)
  /-- The log file unless one is named. -/
  usualLogPath : String

inductive Program where
  | ended (ending : Ending)
  | session (settings : Settings) (text : String) (warnings : String)
deriving DecidableEq, Repr

/-- A session cannot begin where there is no terminal to draw on. -/
def Ending.noTerminal (warnings : String) : Ending :=
  .failed warnings "failed to initialize terminal; are you running in a real TTY?" none

/-- Runs the program up to its session. -/
def Program.start {m : Type → Type} [Monad m] (host : Host m) (arguments : List String) :
    m Program := do
  let environment ← host.environment
  match Request.read arguments with
  | .error fault => return .ended (.failed "" fault.message none)
  | .ok .help => return .ended ⟨0, "", usageText environment.path?⟩
  | .ok .version => return .ended ⟨0, versionText, ""⟩
  | .ok (.session options) =>
      let logPath := options.logPath.getD host.usualLogPath
      match ← host.makeFile logPath with
      | some fault =>
          return .ended (.failed "" ("Failed to create log file: " ++ logPath) (some fault.message))
      | none =>
          let contents ←
            match options.settingsPath <|> environment.path? with
            | some path => host.contents path
            | none => pure (.error .missing)
          match Settings.forSession options environment.path? contents with
          | .error e => return .ended (.failed "" e.message e.cause?)
          | .ok (settings, warning) =>
              return .session settings (options.text.getD sampleText) (warning.getD "")

end ModalKeys
