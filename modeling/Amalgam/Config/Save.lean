import Amalgam.Config.Settings
import Amalgam.World
import Amalgam.Yaml.Writer
import Amalgam.Text.LetterCase
/-!
# Saving a configuration

Writes all settings to a file, as JSON unless YAML is asked for.
-/

namespace Amalgam.Config

open Amalgam.Text

def formatSettings (format : String) (v : Value) : Except Failure String :=
  if lowercased format = "yaml" || lowercased format = "yml" then
    match v with
    | .map fields => .ok (Yaml.write fields)
    | _ => .ok ""
  else (Json.write .standard v).mapError fun what => .misuse (.unwritable what)

def save (s : Settings) (path format : String) : Action Unit := do
  let v ← Action.ofExcept id s.toValue
  let fs ← Action.files
  let route ← Action.ofExcept (fun fault =>
    if fault.isSystem then .configuration (.unsaved fault) else .file fault) (fs.writable path)
  Action.setFiles (fs.putBytes route [])
  -- The file is empty by now, and stays so if the settings have no text.
  let text ← Action.ofExcept id (formatSettings format v)
  Action.setFiles (fs.putBytes route (utf8Encoded (glyphs text)))

end Amalgam.Config
