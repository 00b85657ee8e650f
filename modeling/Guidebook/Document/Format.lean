import Guidebook.Document.Json
import Guidebook.Document.Toml

namespace Guidebook
namespace Document

/-!
# Formats of documents

A document is written in one of two formats.  Whatever the format, reading one
gives the forest or a message.
-/

/-- The formats of documents. -/
inductive Format where
  | json
  | toml
deriving Repr, DecidableEq

namespace Format

/-- The name of a format, which is also the extension of its files. -/
def name : Format -> String
  | .json => "json"
  | .toml => "toml"

/-- The format with a name, in letters of any case. -/
def ofName? (text : String) : Option Format :=
  [json, toml].find? fun format => format.name = text.map Char.toLower

/-- Read a document. -/
def read (format : Format) (text : String) : Except String Forest :=
  match format with
  | .json => (ofJson text).mapError (Json.Failure.message text)
  | .toml => (ofToml text).mapError Toml.Failure.message

end Format
end Document
end Guidebook
