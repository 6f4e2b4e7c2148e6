import Extraction.Schema.Describe
import Extraction.Text.Quoted

/-!
# Structural text of object schemas

Fields are written out with their keys, their policy and the description of the nested schema.
-/

namespace Extraction

namespace Describer

/-- The structural text of a field. -/
def debugField (describe : Describer) : Field Node → Run String
  | .read key outputKey presence node => do
      let description ← describe node
      return "Field \x7b key: " ++ Quoted.encode key ++ ", output_key: " ++
        Quoted.encode outputKey ++ ", presence: " ++ presence.debug ++ ", processor: " ++
        Quoted.encode description ++ " \x7d"
  | .state outputKey _ =>
      return "State \x7b output_key: " ++ Quoted.encode outputKey ++ " \x7d"

/-- The structural text of an object schema that permits a list of keys. -/
def debugClosed (describe : Describer) (fields : List (Field Node)) : Run String := do
  let parts ← fields.mapM describe.debugField
  let permitted := Schema.permittedKeys fields
  return "ClosedObjectSchema \x7b delegate: ObjectSchema \x7b fields: [" ++
    ", ".intercalate parts ++ "] \x7d, permitted: \x7b" ++
    ", ".intercalate (permitted.map Quoted.encode) ++ "\x7d \x7d"

end Describer

end Extraction
