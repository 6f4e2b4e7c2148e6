import Extraction.Schema.Basic

/-!
# Writing fields

The usual fields of object schemas.  A field is stored under the key that it is read from unless
both keys are given.
-/

namespace Extraction.Field

/-- A field that keeps its key. -/
def sameKey (key : String) (presence : Presence) (schema : Schema) : Field Schema :=
  read key key presence schema

/-- Stores a constant. -/
def output (outputKey : String) (value : Value) : Field Schema :=
  state outputKey (.const value)

/-- Stores the whole input. -/
def snapshot (outputKey : String) : Field Schema :=
  state outputKey pure

/-! ## Fields that have to be there -/

/-- A field that has to be there, with a nested schema. -/
def strictOf (key : String) (schema : Schema) : Field Schema :=
  sameKey key .strict schema

/-- A field that has to be there, of any value. -/
def strict (key : String) : Field Schema :=
  strictOf key .anyValue

/-- A number that has to be there. -/
def strictNumber (key : String) : Field Schema :=
  strictOf key .number

/-- A string that has to be there. -/
def strictString (key : String) : Field Schema :=
  strictOf key .string

/-- A truth value that has to be there. -/
def strictBoolean (key : String) : Field Schema :=
  strictOf key .boolean

/-- A function that has to be there. -/
def strictFunction (key : String) : Field Schema :=
  strictOf key .anyFunction

/-- One string of a list that has to be there. -/
def strictStringEnum (key : String) (choices : List String) : Field Schema :=
  strictOf key (.stringEnum choices)

/-- An array that has to be there. -/
def strictArrayOf (key : String) (element : Schema) : Field Schema :=
  strictOf key (.array element)

/-- An object that has to be there. -/
def strictObjectOf (key : String) (fields : List (Field Schema)) : Field Schema :=
  strictOf key (.object fields)

/-! ## Fields that become optionals -/

/-- An optional field with a nested schema. -/
def optionOf (key : String) (schema : Schema) : Field Schema :=
  sameKey key .option schema

/-- An optional field of any value. -/
def option (key : String) : Field Schema :=
  optionOf key .anyValue

/-- An optional number. -/
def optionNumber (key : String) : Field Schema :=
  optionOf key .number

/-- An optional string. -/
def optionString (key : String) : Field Schema :=
  optionOf key .string

/-- An optional truth value. -/
def optionBoolean (key : String) : Field Schema :=
  optionOf key .boolean

/-- An optional function. -/
def optionFunction (key : String) : Field Schema :=
  optionOf key .anyFunction

/-- An optional object. -/
def optionObjectOf (key : String) (fields : List (Field Schema)) : Field Schema :=
  optionOf key (.object fields)

/-- An optional field in which `true` stands for the fallback. -/
def defaultedOption (key : String) (fallback : Fallback) (schema : Schema) : Field Schema :=
  sameKey key (.defaultedOption fallback) schema

/-! ## Fields with a default -/

/-- A field with a constant default and a nested schema, which the default has to pass too. -/
def defaultedOf (key : String) (value : Value) (schema : Schema) : Field Schema :=
  sameKey key (.defaulted (.const value)) schema

/-- A field of any value with a constant default. -/
def defaulted (key : String) (value : Value) : Field Schema :=
  defaultedOf key value .anyValue

/-- A number with a default. -/
def defaultedNumber (key : String) (value : Number) : Field Schema :=
  defaultedOf key (.number value) .number

/-- A string with a default. -/
def defaultedString (key : String) (value : String) : Field Schema :=
  defaultedOf key (.string value) .string

/-- A truth value with a default. -/
def defaultedBoolean (key : String) (value : Bool) : Field Schema :=
  defaultedOf key (.bool value) .boolean

/-- One string of a list with a default. -/
def defaultedStringEnum (key : String) (value : String) (choices : List String) :
    Field Schema :=
  defaultedOf key (.string value) (.stringEnum choices)

/-- An object that defaults to the empty one, which its own fields then fill. -/
def defaultedObjectOf (key : String) (fields : List (Field Schema)) : Field Schema :=
  defaultedOf key .emptyObject (.object fields)

/-- An array with a default. -/
def defaultedArrayOf (key : String) (items : List Value) (element : Schema) : Field Schema :=
  defaultedOf key (.array items) (.array element)

/-! ## Fields on a base -/

/-- A field that is merged onto what the fallback gives. -/
def mergedOnto (key : String) (base : Fallback) (schema : Schema) : Field Schema :=
  sameKey key (.merged base) schema

/-- A field that is merged onto a constant. -/
def mergeWith (key : String) (base : Value) (schema : Schema) : Field Schema :=
  mergedOnto key (.const base) schema

end Extraction.Field
