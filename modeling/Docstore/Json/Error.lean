import Docstore.Json.Basic
import Docstore.Text.Quoted

/-!
# `Docstore.Json.Error` — what is wrong with JSON input
-/

namespace Docstore

/-- Why a JSON text or value is no document, list of documents or instant. -/
inductive JsonError where
  /-- The text is not JSON. -/
  | malformed
  /-- An object or an array was expected. -/
  | unexpected (wanted found : Json.Kind)
  /-- The object with this key stands for a value of a special kind, but not properly. -/
  | badSpecial (key : String)
  /-- A seed file holds something else than an object. -/
  | seedShape
  /-- The text is no timestamp. -/
  | badInstant (text : String)
deriving DecidableEq, Repr

namespace JsonError

/-- The wording of an error. -/
def message : JsonError → String
  | malformed => "malformed JSON"
  | unexpected wanted found => "expected JSON " ++ wanted.name ++ ", got " ++ found.name
  | badSpecial key => "malformed " ++ key
  | seedShape => "seed file must map collection names to arrays"
  | badInstant text => "invalid timestamp " ++ Text.quoted text

end JsonError
end Docstore
