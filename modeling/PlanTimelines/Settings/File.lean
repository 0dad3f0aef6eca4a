import PlanTimelines.Settings.Toml
import PlanTimelines.Settings.Yaml

/-! Settings from texts and files. -/

namespace PlanTimelines

/-- Why there are no settings to be had. -/
inductive SettingsError where
  /-- There is no file, or it holds no text. -/
  | unreadable
  | malformedToml
  | malformedYaml
  | invalid (fault : SettingsFault)
deriving DecidableEq, Repr

def SettingsError.message : SettingsError → String
  | .unreadable => "IO error"
  | .malformedToml => "TOML parse error"
  | .malformedYaml => "YAML parse error"
  | .invalid fault => "Invalid configuration: " ++ fault.message

/-- The contents of a file, if there is one. -/
abbrev File := Option ByteArray

namespace Settings

def check (s : Settings) : Except SettingsError Settings :=
  match s.fault? with
  | some fault => .error (.invalid fault)
  | none => .ok s

def ofTomlText (text : String) : Except SettingsError Settings :=
  match (Toml.Entries.ofText? text).bind ofToml? with
  | some s => s.check
  | none => .error .malformedToml

def ofYamlText (text : String) : Except SettingsError Settings :=
  match (Yaml.Node.ofText? text).bind ofYaml? with
  | some s => s.check
  | none => .error .malformedYaml

/-- The text of a file, which has to be UTF-8. -/
def textOf (file : File) : Except SettingsError String :=
  match file.bind String.fromUTF8? with
  | some text => .ok text
  | none => .error .unreadable

def ofTomlFile (file : File) : Except SettingsError Settings := do
  ofTomlText (← textOf file)

def ofYamlFile (file : File) : Except SettingsError Settings := do
  ofYamlText (← textOf file)

/-- The settings of a TOML file, or the defaults if it has none. -/
def ofTomlFileOrDefault (file : File) : Settings :=
  (ofTomlFile file).toOption.getD default

end Settings

end PlanTimelines
