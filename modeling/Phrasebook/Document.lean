import Phrasebook.Issue
import Phrasebook.Json
import Phrasebook.Toml.Document
import Phrasebook.Yaml.Content

/-!
Documents of the three structured formats as values. A text that a format refuses has a fault; a
breach comes from a scalar that the format accepts and no value answers to.
-/

namespace Phrasebook.Document

inductive Fault where
  | json (text : String)
  | yaml
  | toml
  | breach (breach : Breach)
  deriving DecidableEq, Repr

def readJson (text : String) : Except Fault Value :=
  match Json.parse text.toList with
  | .ok v => .ok v
  | .error (.fault fault) => .error (.json (fault.message text.toList))
  | .error .longInteger => .error (.breach .value)

def yamlFault : Yaml.Error → Fault
  | .refused => .yaml
  | .range => .breach .value
  | .overflow => .breach .overflow
  | .emptyNumber => .breach .emptyNumber
  | .unknownWord => .breach .unknownWord
  | .noTimestamp => .breach .attribute
  | .noText => .breach .type

def readYaml (text : String) : Except Fault Value := (Yaml.parse text.toList).mapError yamlFault

def readYamlOrEmpty (text : String) : Except Fault Value :=
  (readYaml text).map fun v => if v.isGiven then v else .map []

def readToml (text : String) : Except Fault Value :=
  match Toml.parse text.toList with
  | .ok v => .ok v
  | .error .refused => .error .toml
  | .error .longInteger => .error (.breach .value)

end Phrasebook.Document
