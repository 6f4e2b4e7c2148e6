import Extraction.Pattern.Reader.Basic

/-!
# Repetitions and groups

The bounds of a repetition, and what follows the opening parenthesis of a group: a name, flags, or
nothing.
-/

namespace Extraction.Pattern

namespace Reader

/-! ## Repetitions -/

/-- Reads the decimal digits of a number. -/
def digits (flags : Flags) (value : Option Nat) : Nat → Reader (Option Nat)
  | 0 => return value
  | bound + 1 => do
      match (← get).rest with
      | [] => return value
      | char :: rest =>
          if char.isDigit then
            modify fun cursor => { cursor with rest := skipped flags rest }
            digits flags (some (10 * value.getD 0 + (char.toNat - '0'.toNat))) bound
          else
            return value

/-- Reads a number in a repetition; blanks around it mean nothing. -/
def number (flags : Flags) : Reader (Option Nat) := do
  let blanks : Reader Unit :=
    modify fun cursor => { cursor with rest := cursor.rest.dropWhile Character.isBlank }
  blanks
  let value ← digits flags none (← get).rest.length
  blanks
  skip flags
  match value with
  | some value => if value < 4294967296 then return some value else throw .invalidRepetition
  | none => return none

/-- Reads the bounds of a repetition after the opening brace. -/
def bounds (flags : Flags) : Reader Count := do
  skip flags
  match ← number flags with
  | none => throw .invalidRepetition
  | some least =>
      let count ←
        if ← takeIf "," then
          skip flags
          if ← looksAt "\x7d" then
            pure (Count.mk least none)
          else
            match ← number flags with
            | none => throw .invalidRepetition
            | some most => pure (Count.mk least (some most))
        else
          pure (Count.mk least (some least))
      let _ ← if ← takeIf "\x7d" then pure () else throw .unclosedRepetition
      if count.most.any (· < count.least) then throw .invalidRepetition else return count

/-! ## Groups -/

/-- Whether a character may stand in the name of a group. -/
def isNameChar (first : Bool) (char : Char) : Bool :=
  char == '_' || Character.isLetter char ||
    (!first && (char == '.' || char == '[' || char == ']' || Character.isNumeral char))

/-- Reads the name of a group up to the closing angle bracket; no two groups have one name. -/
def groupName : Reader Unit := do
  let cursor ← get
  let name := cursor.rest.takeWhile (· != '>')
  match name, cursor.rest.dropWhile (· != '>') with
  | first :: others, _ :: rest =>
      if isNameChar true first && others.all (isNameChar false) then
        let name := String.ofList name
        if name ∈ cursor.names then throw (.repeatedName name)
        else set { cursor with rest, names := name :: cursor.names }
      else
        throw .invalidName
  | _, _ => throw .invalidName

/-- The index of the next group whose bounds are kept. -/
def nextGroup : Reader Nat := do
  modify fun cursor => { cursor with groups := cursor.groups + 1 }
  return (← get).groups

/-- Sets one flag. -/
def setFlag (flags : Flags) (value : Bool) : Char → Option Flags
  | 'i' => some { flags with caseless := value }
  | 'm' => some { flags with multiline := value }
  | 's' => some { flags with dotAll := value }
  | 'x' => some { flags with spaced := value }
  | 'U' => some { flags with lazy := value }
  | 'R' => some { flags with carriageReturn := value }
  | 'u' => some { flags with ascii := !value }
  | _ => none

/-- What stands between a question mark and the end of a list of flags. -/
structure FlagList where
  flags : Flags
  isEmpty : Bool
  closesGroup : Bool
  rest : List Char

/-- Reads flags up to a colon or a closing parenthesis.  No flag is named twice, and a hyphen,
which turns the later ones off, is not the last item. -/
def flagList (flags : Flags) (seen : List Char) (value : Bool) (dangling : Bool) :
    List Char → Except Flaw FlagList
  | [] => .error .invalidFlags
  | char :: rest =>
      if char = ':' ∨ char = ')' then
        if dangling then .error .invalidFlags
        else .ok ⟨flags, seen.isEmpty, char = ')', rest⟩
      else if char ∈ seen then
        .error .invalidFlags
      else if char = '-' then
        flagList flags (char :: seen) false true rest
      else
        match setFlag flags value char with
        | some flags => flagList flags (char :: seen) value false rest
        | none => .error .invalidFlags

/-- What an opening parenthesis starts: new flags, or a group with flags of its own and an index if
its bounds are kept. -/
inductive Opening where
  | flags (flags : Flags)
  | group (index : Option Nat) (flags : Flags)

/-- Reads what follows an opening parenthesis up to the content of the group. -/
def opening (flags : Flags) : Reader Opening := do
  skip flags
  let lookAround ← ["?=", "?!", "?<=", "?<!"].anyM looksAt
  if lookAround then
    throw .lookAround
  else if (← takeIf "?P<") || (← takeIf "?<") then
    let index ← nextGroup
    groupName
    return .group (some index) flags
  else if ← takeIf "?" then
    let list ← flagList flags [] true false (← get).rest
    modify fun cursor => { cursor with rest := list.rest }
    if list.closesGroup then
      if list.isEmpty then throw .missingOperand else return .flags list.flags
    else
      return .group none list.flags
  else
    return .group (some (← nextGroup)) flags

end Reader

end Extraction.Pattern
