import AccessMobility.Config.Validation
import AccessMobility.Yaml.Node

/-!
# Loading configurations

A configuration is the `amf` section of a YAML document in UTF-8.
-/

namespace AccessMobility

/-- Why a configuration could not be loaded. -/
inductive LoadError where
  /-- There is no text: no file, or octets that are not UTF-8. -/
  | unreadable
  /-- The text is no YAML document with such a section. -/
  | malformed
  | invalid (fault : ConfigFault)
  deriving DecidableEq

namespace Config

/-- The configuration in a document, valid or not. -/
def ofYaml? (text : String) : Option Config := do
  let document ← Yaml.Node.ofText? text
  let record ← Document.record? ["amf"] document
  record.required "amf" Config.read

def load (text : String) : Except LoadError Config :=
  match ofYaml? text with
  | none => .error .malformed
  | some config =>
    match config.validate with
    | .ok _ => .ok config
    | .error fault => .error (.invalid fault)

/-- Load a file with the given octets, or one that does not exist. -/
def loadFile (octets : Option (List UInt8)) : Except LoadError Config :=
  match octets.bind fun octets => String.fromUTF8? ⟨octets.toArray⟩ with
  | none => .error .unreadable
  | some text => load text

end Config

end AccessMobility
