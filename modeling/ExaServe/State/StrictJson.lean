import ExaServe.Lib.JsonIndented
import ExaServe.State.MountTable

namespace ExaServe.State

open Lib Mounts

/-- `strict_json_load_path` of a file with this content. -/
def strictJson (content : List UInt8) : Option Json :=
  (decodeUtf8 content).bind fun text => Json.loads (universalNewlines text)

/-- What was written as a file is read back from it. -/
theorem strictJson_fileBytes {value : Json} (keyed : Json.wellKeyed value = true) :
    strictJson (Json.fileBytes value) = some value.canonical := by
  have plain : universalNewlines (Json.fileText value) = Json.fileText value :=
    universalNewlines_eq fun listed => (Json.lined_fileText _ _ listed).2 rfl
  rw [strictJson, Json.decodeUtf8_fileBytes, Option.bind_some, plain, Json.loads_fileText keyed]

end ExaServe.State
