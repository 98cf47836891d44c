import TestScout.FileSystem
import TestScout.Settings.Toml
import TestScout.Text.Numeral

/-!
Where settings come from. One source is chosen: the file in the directory if there is one, otherwise
the file of the user, otherwise what is built in. Variables of the environment then have the last
word, and the result has to be something that can be worked with.
-/

namespace TestScout

inductive SettingsError where
  | unreadable (fault : IoError)
  | malformed
  | invalid (fault : SettingsFault)
  deriving DecidableEq, Repr

/-- The text of an error. What is wrong with the form of a file is said in the words of its parser;
without them the text ends before they would begin. -/
def SettingsError.messageWith (words : Option String) : SettingsError → String
  | .unreadable fault => "Failed to read config file: " ++ fault.message
  | .malformed => "Failed to parse config file" ++ (words.map (": " ++ ·)).getD ""
  | .invalid fault => "Invalid configuration: " ++ fault.message

/-- The text of an error as far as it is settled here: the reader of files gives no words. -/
def SettingsError.message (e : SettingsError) : String :=
  e.messageWith none

namespace Settings

/-! ### Variables -/

/-- The variables that are looked at. -/
def variableNames : List String :=
  ["VITEST_LENS_RUNNER_PACKAGE", "VITEST_LENS_RUNNER_ENTRY", "VITEST_LENS_RUNTIME_EXECUTABLE",
    "VITEST_LENS_MAX_ROOT_HOPS", "VITEST_LENS_CONSOLE", "VITEST_LENS_PATTERN_POLICY",
    "XDG_CONFIG_HOME", "HOME"]

/-- The settings with what the variables say in place of what they are about. A variable that makes
no sense says nothing. -/
def override (s : Settings) (var : String → Option String) : Settings where
  runner := { s.runner with
    package := (var "VITEST_LENS_RUNNER_PACKAGE").getD s.runner.package
    entry := (var "VITEST_LENS_RUNNER_ENTRY").getD s.runner.entry
    executable := (var "VITEST_LENS_RUNTIME_EXECUTABLE").getD s.runner.executable
    maxHops := ((var "VITEST_LENS_MAX_ROOT_HOPS").bind Text.word?).getD s.runner.maxHops }
  discovery := s.discovery
  launch := { s.launch with
    console := (var "VITEST_LENS_CONSOLE").getD s.launch.console
    policy := ((var "VITEST_LENS_PATTERN_POLICY").bind PatternPolicy.ofName?).getD s.launch.policy }

/-! ### Files -/

def fileName : Path := .ofString "vitest-lens.toml"

/-- The file of the user, in the directory for settings. -/
def userFileName : Path := .ofString "vitest-lens/config.toml"

/-- The settings under the variables of a world, if they can be worked with. -/
def finish (w : World) (s : Settings) : Except SettingsError Settings :=
  let s := s.override w.vars
  match s.fault? with
  | some fault => .error (.invalid fault)
  | none => .ok s

def ofFile (w : World) (file : Path) : Except SettingsError Settings :=
  match w.readText file with
  | .error fault => .error (.unreadable fault)
  | .ok text =>
    match ofToml? text with
    | none => .error .malformed
    | some s => s.finish w

/-- The home directory of the user: the one that a variable names, or else the one on record. -/
def homeDirectory? (w : World) : Option Path :=
  match (w.vars "HOME").filter (!·.isEmpty) with
  | some home => some (.ofString home)
  | none => w.home

/-- The user's directory for settings: the one that a variable names by an absolute path, or one in
the home directory. -/
def userDirectory? (w : World) : Option Path :=
  match ((w.vars "XDG_CONFIG_HOME").map Path.ofString).filter (·.isAbsolute) with
  | some dir => some dir
  | none => (homeDirectory? w).map (·.join (.ofString ".config"))

/-- The files that may hold settings, the one that counts most first: that of the directory, and
that of the user. -/
def places (w : World) (dir : Path) : List Path :=
  dir.join fileName :: ((userDirectory? w).map (·.join userFileName)).toList

def source? (w : World) (dir : Path) : Option Path := (places w dir).find? w.has

def load (w : World) (dir : Path) : Except SettingsError Settings :=
  match source? w dir with
  | some file => ofFile w file
  | none => builtIn.finish w

end Settings

end TestScout
