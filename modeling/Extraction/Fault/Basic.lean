import Extraction.Path
import Extraction.Traced
import Extraction.Value.Json

/-!
# Faults

A fault says where an extraction failed and why.  The cause is kept as data; its explanation is
worked out only when the fault is shown.
-/

namespace Extraction

/-- The kinds of faults. -/
inductive FaultKind where
  | missingStrict
  | missingKey
  | missingBranch
  | unsupportedFields
  | custom
deriving DecidableEq, Repr

namespace FaultKind

/-- The code of a kind for machines. -/
def code : FaultKind → String
  | missingStrict => "missing_strict"
  | missingKey => "missing_key"
  | missingBranch => "missing_branch"
  | unsupportedFields => "unsupported_fields"
  | custom => "custom"

/-- All kinds. -/
def all : List FaultKind :=
  [missingStrict, missingKey, missingBranch, unsupportedFields, custom]

/-- The kind with a given code. -/
def ofCode? (code : String) : Option FaultKind :=
  all.find? (·.code == code)

theorem ofCode?_code (kind : FaultKind) : ofCode? kind.code = some kind := by
  cases kind <;> decide

/-- The name of a kind in structural text. -/
def debug : FaultKind → String
  | missingStrict => "MissingStrictValue"
  | missingKey => "MissingChoiceKey"
  | missingBranch => "MissingBranch"
  | unsupportedFields => "UnsupportedFields"
  | custom => "Custom"

end FaultKind

/-- Why an extraction failed. -/
inductive Cause where
  /-- A field that has to be there is missing in the object. -/
  | missingStrict (key : String) (object : Value)
  /-- The key that decides between branches is missing. -/
  | missingKey (key : String)
  /-- There is no branch of the name that was asked for. -/
  | missingBranch (branches : Value) (branch : String)
  /-- An object holds keys that it may not hold. -/
  | unsupportedFields (keys : List String)
  /-- A value was rejected with a message. -/
  | custom (message : String)
  /-- An explanation that the host works out each time it is shown. -/
  | deferred (kind : FaultKind) (explanation : Traced String)

namespace Cause

/-- The kind of a cause. -/
def kind : Cause → FaultKind
  | missingStrict .. => .missingStrict
  | missingKey _ => .missingKey
  | missingBranch .. => .missingBranch
  | unsupportedFields _ => .unsupportedFields
  | custom _ => .custom
  | deferred kind _ => kind

/-- The explanation of a cause in words. -/
def explain : Cause → Traced String
  | missingStrict key object =>
      pure ("Could not find valid *strict* value for \"" ++ key ++ "\" in " ++ object.format)
  | missingKey key =>
      pure ("Choice schema did not contain choice key: \"" ++ key ++ "\"")
  | missingBranch branches branch =>
      pure ("The chosen schema: \"" ++ branch ++ "\" did not exist in branches: " ++
        branches.format)
  | unsupportedFields keys =>
      pure ("There are unsupported fields: [" ++ ", ".intercalate keys ++ "] specified")
  | custom message => pure message
  | deferred _ explanation => explanation

end Cause

/-- A failure at one place of the input. -/
structure Fault where
  path : Path
  cause : Cause

namespace Fault

/-- The kind of a fault. -/
def kind (fault : Fault) : FaultKind :=
  fault.cause.kind

/-- The explanation of a fault in words. -/
def explain (fault : Fault) : Traced String :=
  fault.cause.explain

/-- A rejection with a message. -/
def custom (path : Path) (message : String) : Fault :=
  ⟨path, .custom message⟩

/-- The fault as seen from further up: its path is continued by `lead` in front. -/
def under (lead : Path) (fault : Fault) : Fault :=
  { fault with path := lead ++ fault.path }

/-- The path on one line and the explanation below it. -/
def render (fault : Fault) : Traced String := do
  let explanation ← fault.explain
  pure ("Failed path: (" ++ fault.path.render ++ ")\n" ++ explanation)

/-- Faults are equal when their paths, kinds and explanations are; explanations are worked out only
if the rest agrees, the left one first. -/
def equals (left right : Fault) : Traced Bool :=
  if left.path = right.path ∧ left.kind = right.kind then do
    let first ← left.explain
    let second ← right.explain
    pure (first == second)
  else
    pure false

@[simp]
theorem kind_under (lead : Path) (fault : Fault) : (fault.under lead).kind = fault.kind :=
  rfl

@[simp]
theorem explain_under (lead : Path) (fault : Fault) :
    (fault.under lead).explain = fault.explain :=
  rfl

end Fault

end Extraction
