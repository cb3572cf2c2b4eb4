import SignalChain.Document.Json.Reader
import SignalChain.Document.Json.Writer
import SignalChain.Document.Toml.Reader
import SignalChain.Document.Toml.Writer
import SignalChain.Storage.Path

/-!
# Document formats

The two text formats of documents, chosen by the extension of a file's name.
-/

namespace SignalChain

namespace Document

inductive Format where
  | json
  | toml
deriving BEq, DecidableEq

namespace Format

/-- The name of a format, which is also its extension. -/
def name : Format -> String
  | .json => "json"
  | .toml => "toml"

/-- The format with an extension, in any case of its ASCII letters. -/
def ofExtension? (extension : String) : Option Format :=
  let letters := String.ofList (extension.toList.map Char.toLower)
  if letters = "json" then some .json
  else if letters = "toml" then some .toml
  else none

def ofPath? (path : String) : Option Format :=
  (Storage.Path.extension? path).bind ofExtension?

def read? : Format -> String -> Option Value
  | .json => Json.read?
  | .toml => Toml.read?

def write? : Format -> Value -> Option String
  | .json, v => some (Json.write v)
  | .toml, v => Toml.write? v

end Format

end Document

end SignalChain
