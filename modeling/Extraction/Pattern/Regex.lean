import Extraction.Pattern.Assertion
import Extraction.Pattern.CharSet

/-!
# Regular expressions

Regular expressions as trees, and the functions that build them.  Those bring an expression into a
plain form: literals next to each other are one, a sequence or choice is never directly inside
another one of its kind, and what all branches of a choice begin with stands before the choice.
-/

namespace Extraction.Pattern

/-- How often something is repeated; there may be no upper bound. -/
structure Count where
  least : Nat
  most : Option Nat
deriving DecidableEq, Repr

/-- A regular expression. -/
inductive Regex where
  | empty
  | literal (chars : List Char)
  | member (set : CharSet)
  | check (assertion : Assertion)
  | repeated (count : Count) (greedy : Bool) (body : Regex)
  | capture (index : Nat) (body : Regex)
  | sequence (items : List Regex)
  | choice (branches : List Regex)
deriving Repr

namespace Regex

mutual

/-- Whether two expressions are written alike. -/
def alike : Regex → Regex → Bool
  | empty, empty => true
  | literal left, literal right => left == right
  | member left, member right => left == right
  | check left, check right => left == right
  | repeated count greedy body, repeated count' greedy' body' =>
      count == count' && greedy == greedy' && alike body body'
  | capture index body, capture index' body' => index == index' && alike body body'
  | sequence items, sequence items' => allAlike items items'
  | choice branches, choice branches' => allAlike branches branches'
  | _, _ => false

/-- Whether the expressions of two lists are written alike, one by one. -/
def allAlike : List Regex → List Regex → Bool
  | [], [] => true
  | left :: lefts, right :: rights => alike left right && allAlike lefts rights
  | _, _ => false

end

/-! ## What an expression takes -/

mutual

/-- The fewest bytes that a match takes; an expression that never matches has no such number. -/
def leastLength? : Regex → Option Nat
  | empty => some 0
  | literal chars => some (chars.map Char.utf8Size).sum
  | member set => set.spans.head?.map fun span => (Char.ofNat span.first).utf8Size
  | check _ => some 0
  | repeated count _ body => (leastLength? body).map (· * count.least)
  | capture _ body => leastLength? body
  | sequence items => sumOfLeast? items
  | choice branches => leastOfLeast? branches

/-- The fewest bytes that all the expressions take together. -/
def sumOfLeast? : List Regex → Option Nat
  | [] => some 0
  | item :: items =>
      match leastLength? item, sumOfLeast? items with
      | some length, some total => some (length + total)
      | _, _ => none

/-- The fewest bytes that one of the expressions takes, if each has such a number. -/
def leastOfLeast? : List Regex → Option Nat
  | [] => none
  | [branch] => leastLength? branch
  | branch :: branches =>
      match leastLength? branch, leastOfLeast? branches with
      | some length, some others => some (min length others)
      | _, _ => none

end

mutual

/-- Whether no match takes a character, as can be told without looking at the text. -/
def takesNothing : Regex → Bool
  | empty | check _ => true
  | literal _ | member _ => false
  | repeated _ _ body | capture _ body => takesNothing body
  | sequence items => allTakeNothing items
  | choice branches => allTakeNothing branches

/-- Whether no match of any of the expressions takes a character. -/
def allTakeNothing : List Regex → Bool
  | [] => true
  | item :: items => takesNothing item && allTakeNothing items

end

mutual

/-- Whether every match has to meet the assertion before it takes a character. -/
def startsWith (assertion : Assertion) : Regex → Bool
  | empty | literal _ | member _ => false
  | check other => other == assertion
  | repeated count _ body => 0 < count.least && startsWith assertion body
  | capture _ body => startsWith assertion body
  | sequence items => sequenceStartsWith assertion items
  | choice branches => allStartWith assertion branches

/-- Whether every match of the expressions in a row has to meet the assertion at its start. -/
def sequenceStartsWith (assertion : Assertion) : List Regex → Bool
  | [] => false
  | item :: items =>
      startsWith assertion item || (takesNothing item && sequenceStartsWith assertion items)

/-- Whether every match of any of the expressions has to meet the assertion at its start. -/
def allStartWith (assertion : Assertion) : List Regex → Bool
  | [] => true
  | branch :: branches => startsWith assertion branch && allStartWith assertion branches

end

mutual

/-- Whether every match has to meet the assertion after it took its last character. -/
def endsWith (assertion : Assertion) : Regex → Bool
  | empty | literal _ | member _ => false
  | check other => other == assertion
  | repeated count _ body => 0 < count.least && endsWith assertion body
  | capture _ body => endsWith assertion body
  | sequence items => sequenceEndsWith assertion items
  | choice branches => allEndWith assertion branches

/-- Whether every match of the expressions in a row has to meet the assertion at its end. -/
def sequenceEndsWith (assertion : Assertion) : List Regex → Bool
  | [] => false
  | item :: items =>
      sequenceEndsWith assertion items || (allTakeNothing items && endsWith assertion item)

/-- Whether every match of any of the expressions has to meet the assertion at its end. -/
def allEndWith (assertion : Assertion) : List Regex → Bool
  | [] => true
  | branch :: branches => endsWith assertion branch && allEndWith assertion branches

end

/-! ## Building expressions -/

/-- The expression of a set; the set of one character is a literal. -/
def ofSet (set : CharSet) : Regex :=
  match set.only? with
  | some char => literal [char]
  | none => member set

/-- A repetition.  Where there is nothing to take, a second match adds nothing. -/
def repetition (count : Count) (greedy : Bool) (body : Regex) : Regex :=
  let count :=
    if takesNothing body then ⟨min count.least 1, some (min (count.most.getD 1) 1)⟩ else count
  if count = ⟨0, some 0⟩ then empty
  else if count = ⟨1, some 1⟩ then body
  else repeated count greedy body

/-- Puts an expression before the items of a sequence, where it joins a literal. -/
def before : Regex → List Regex → List Regex
  | empty, items => items
  | literal chars, literal more :: items => literal (chars ++ more) :: items
  | item, items => item :: items

/-- Puts an expression before the items of a sequence; a sequence stands for its own items. -/
def spread : Regex → List Regex → List Regex
  | sequence own, items => own.foldr before items
  | item, items => before item items

/-- One expression after the other. -/
def ofItems (items : List Regex) : Regex :=
  match items.foldr spread [] with
  | [] => empty
  | [item] => item
  | items => sequence items

/-- The branches of an expression: its own ones if it is a choice. -/
def ownBranches : Regex → List Regex
  | choice branches => branches
  | branch => [branch]

/-- The only character of a literal. -/
def onlyChar? : Regex → Option Char
  | literal [char] => some char
  | _ => none

/-- The set of an expression that takes one character of a set. -/
def set? : Regex → Option CharSet
  | member set => some set
  | _ => none

/-- The items that two sequences both begin with. -/
def commonItems : List Regex → List Regex → List Regex
  | left :: lefts, right :: rights =>
      if alike left right then left :: commonItems lefts rights else []
  | _, _ => []

/-- The items of a sequence; another expression has none. -/
def items : Regex → List Regex
  | sequence items => items
  | _ => []

/-- What all branches begin with, if all are sequences. -/
def commonStart : List Regex → List Regex
  | [] => []
  | branch :: branches =>
      branches.foldl (fun common other => commonItems common other.items) branch.items

mutual

/-- How deep the sequences and choices of an expression are nested. -/
def height : Regex → Nat
  | empty | literal _ | member _ | check _ => 0
  | repeated _ _ body | capture _ body => height body
  | sequence items => heights items + 1
  | choice branches => heights branches + 1

/-- The greatest of the heights. -/
def heights : List Regex → Nat
  | [] => 0
  | item :: items => max (height item) (heights items)

end

/-- A choice between branches that are no choices themselves.  What all of them begin with is taken
out; the choice between the rest is less high, and `bound` is the height that is left. -/
def choiceWithin (bound : Nat) (branches : List Regex) : Regex :=
  match branches with
  | [] => member .none
  | [branch] => branch
  | _ =>
      match branches.mapM onlyChar?, branches.mapM set? with
      | some chars, _ => ofSet (.ofSpans (chars.map fun char => ⟨char.toNat, char.toNat⟩))
      | _, some sets => ofSet (.ofSpans (sets.flatMap CharSet.spans))
      | none, none =>
          match bound, commonStart branches with
          | _, [] => choice branches
          | 0, _ => choice branches
          | bound + 1, common =>
              let rest := branches.map fun branch => ofItems (branch.items.drop common.length)
              ofItems (common ++ [choiceWithin bound (rest.flatMap ownBranches)])

/-- One of several expressions. -/
def ofBranches (branches : List Regex) : Regex :=
  choiceWithin (heights branches) (branches.flatMap ownBranches)

end Regex

end Extraction.Pattern
