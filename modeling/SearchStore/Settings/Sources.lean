import SearchStore.Settings.Basic
import SearchStore.Settings.Variables
import SearchStore.Yaml.Block
namespace SearchStore

structure Surroundings where
  environment : List (String × String) := []
  file : Option String := none

namespace Surroundings

def bindings (s : Surroundings) : List EnvFile.Binding :=
  s.environment.map fun v => ⟨v.1, some v.2⟩

def environmentEntries (s : Surroundings) : Except Failure Entries :=
  Variables.toEntries (.ofBindings s.bindings)

def fileEntries (s : Surroundings) : Except Failure Entries :=
  match s.file with
  | some text => Variables.toEntriesStrict (.ofBindings (EnvFile.read s.bindings text))
  | none => .ok []

end Surroundings

namespace Settings

-- The given settings over those of the environment over those of the file of variables.
def merged (given : Entries) (around : Surroundings) : Except Failure Entries := do
  let environment ← around.environmentEntries
  let file ← around.fileEntries
  return Entries.overlayAll file (Entries.overlayAll environment given)

def load (given : Value) (around : Surroundings) : Except Failure Settings :=
  match given with
  | .map entries =>
    if Entries.hasTextKeys entries then do (readFields (← merged entries around)).result
    else .error (.fault .wrongKind)
  | _ => .error (.fault .wrongKind)

-- The notation of the file belongs to its reader, so what is said about files is said for any reader.
def ofYamlBy (read : String → Option Value) (text : String) (around : Surroundings) : Except Failure Settings :=
  match read text with
  | some value => load (value.orElse (.map [])) around
  | none => .error .configMalformed

def ofYaml (text : String) (around : Surroundings) : Except Failure Settings := ofYamlBy Yaml.simple? text around

def ofFile (path : String) (content : Option String) (around : Surroundings) :
    Except Failure Settings :=
  match content with
  | some text => ofYaml text around
  | none => .error (.configMissing path)

end Settings
end SearchStore
