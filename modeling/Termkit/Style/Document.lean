import Termkit.Style.JsonDocument
import Termkit.Style.YamlDocument

/-!
# Style documents

A style is loaded from a JSON or a YAML document; the error says in which format.
-/

namespace Termkit.Style

inductive DocumentError where
  | json (e : JsonError)
  | yaml (e : YamlError)
  deriving DecidableEq, Repr

def DocumentError.message : DocumentError → Text
  | json e => "invalid JSON style descriptor: ".toList ++ e.message
  | yaml e => "invalid YAML style descriptor: ".toList ++ e.message

def loadJson (t : Text) : Except DocumentError Style := (ofJson t).mapError .json

def loadYaml (t : Text) : Except DocumentError Style := (ofYaml t).mapError .yaml

end Termkit.Style
