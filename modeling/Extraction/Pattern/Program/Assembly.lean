import Extraction.Pattern.Program.Literals
import Extraction.Pattern.Program.Shared
import Extraction.Pattern.Regex

/-!
# From expressions to programs

A program can read forwards or backwards.  A pattern is taken only if both programs stay within the
limit of size.
-/

namespace Extraction.Pattern

/-- The bytes of a literal in the order in which they are read. -/
def literalBytes (backward : Bool) (chars : List Char) : List UInt8 :=
  let bytes := chars.flatMap String.utf8EncodeChar
  if backward then bytes.reverse else bytes

/-- The characters of a literal. -/
def Regex.literal? : Regex → Option (List Char)
  | literal chars => some chars
  | _ => none

namespace Assembler

/-- The fragment of a byte. -/
def exactly (byte : UInt8) : Assembler Fragment :=
  single (.byte ⟨byte, byte, 0⟩)

/-- One of several fragments. -/
def oneOf : List (Assembler Fragment) → Assembler Fragment
  | [] => pass
  | [only] => only
  | first :: second :: others => do
      let first ← first
      let second ← second
      let entry ← split
      let exit ← add (.pass 0)
      let join (part : Fragment) : Assembler Unit := do
        connect entry part.entry
        connect part.exit exit
      join first
      join second
      others.forM fun other => do join (← other)
      return ⟨entry, exit⟩

/-- One of several literals. -/
def oneLiteral (backward : Bool) (literals : List (List Char)) : Assembler Fragment := do
  let exit ← add (.pass 0)
  let tree := literals.foldl (fun tree chars => tree.insert (literalBytes backward chars))
    LiteralTree.empty
  return ⟨← tree.assemble exit, exit⟩

/-- One match or none. -/
def optional (body : Assembler Fragment) : Assembler Fragment := do
  let entry ← split
  let part ← body
  let exit ← add (.pass 0)
  connect entry part.entry
  connect entry exit
  connect part.exit exit
  return ⟨entry, exit⟩

/-- Any number of matches.  A body that may take nothing is tried once before it is repeated. -/
def anyNumber (takesSome : Bool) (body : Assembler Fragment) : Assembler Fragment := do
  if takesSome then
    let again ← split
    let part ← body
    connect again part.entry
    connect part.exit again
    return ⟨again, again⟩
  else
    let part ← body
    let again ← split
    connect part.exit again
    connect again part.entry
    let entry ← split
    let exit ← add (.pass 0)
    connect entry part.entry
    connect entry exit
    connect again exit
    return ⟨entry, exit⟩

/-- The last of the matches that have to be there, and any number of further ones. -/
def lastAndMore (body : Assembler Fragment) : Assembler Fragment := do
  let part ← body
  let again ← split
  connect part.exit again
  connect again part.entry
  return ⟨part.entry, again⟩

/-- Further matches, each only after the one before, and a way out to `exit` before each of
them. -/
def upTo (body : Assembler Fragment) (exit last : Nat) : Nat → Assembler Nat
  | 0 => return last
  | count + 1 => do
      let entry ← split
      let part ← body
      connect last entry
      connect entry part.entry
      connect entry exit
      upTo body exit part.exit count

/-- A number of matches between two bounds. -/
def between (body : Assembler Fragment) (least most : Nat) : Assembler Fragment := do
  let first ← copies body least
  let exit ← add (.pass 0)
  let last ← upTo body exit first.exit (most - least)
  connect last exit
  return ⟨first.entry, exit⟩

/-- A repetition. -/
def times (count : Count) (takesSome : Bool) (body : Assembler Fragment) : Assembler Fragment :=
  match count.least, count.most with
  | 0, some 1 => optional body
  | 0, none => anyNumber takesSome body
  | 1, none => lastAndMore body
  | least + 2, none => do andThen (← copies body (least + 1)) (lastAndMore body)
  | least, some most => if least = most then copies body least else between body least most

/-- A group whose bounds are kept. -/
def group (body : Assembler Fragment) : Assembler Fragment := do
  let entry ← add (.pass 0)
  let part ← body
  let exit ← add (.pass 0)
  connect entry part.entry
  connect part.exit exit
  return ⟨entry, exit⟩

mutual

/-- The fragment of an expression. -/
def ofRegex (backward : Bool) : Regex → Assembler Fragment
  | .empty => pass
  | .literal chars => inTurn ((literalBytes backward chars).map exactly)
  | .member set => member backward set
  | .check assertion => single (.check assertion 0)
  | .repeated count _ body =>
      times count (body.leastLength?.any (0 < ·)) (ofRegex backward body)
  | .capture _ body => if backward then ofRegex backward body else group (ofRegex backward body)
  | .sequence items =>
      let parts := ofEach backward items
      inTurn (if backward then parts.reverse else parts)
  | .choice branches =>
      match branches.mapM Regex.literal? with
      | some literals => oneLiteral backward literals
      | none => oneOf (ofEach backward branches)

/-- The fragments of several expressions. -/
def ofEach (backward : Bool) : List Regex → List (Assembler Fragment)
  | [] => []
  | item :: items => ofRegex backward item :: ofEach backward items

end

/-- The program of an expression.  It passes over any bytes first, unless a match can only stand at
the end of the text where the program starts. -/
def program (backward : Bool) (regex : Regex) : Assembler Nat := do
  let anchored := if backward then regex.endsWith .textEnd else regex.startsWith .textStart
  let lead ← if anchored then pass else anyNumber true (byteOf [⟨0, 255⟩])
  let body := ofRegex backward regex
  let part ← if backward then body else group body
  let accept ← add .accept
  connect part.exit accept
  connect lead.exit part.entry
  return lead.entry

end Assembler

namespace Program

/-- The program of an expression, unless it is too large. -/
def ofRegex? (backward : Bool) (regex : Regex) : Option Program :=
  ((Assembler.program backward regex).run ⟨#[], 0⟩).map fun (start, draft) =>
    ⟨draft.code, start⟩

end Program

end Extraction.Pattern
