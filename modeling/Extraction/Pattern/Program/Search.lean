import Extraction.Pattern.Program.Basic

/-!
# Running programs

A text is searched in one pass.  At each place the pass keeps the instructions that are to take the
next byte.  As each of them is kept once, no search takes longer than the product of the length of
the text and the size of the program.
-/

namespace Extraction.Pattern.Program

/-- What is known at a place in the text: the instructions that are to take the next byte, when
each instruction was met last, and whether a match ends here. -/
structure Front where
  waiting : List Nat
  marks : Array Nat
  matched : Bool

/-- Whether an instruction has been met at a time. -/
def isMet (time : Nat) (marks : Array Nat) (place : Nat) : Bool :=
  marks.getD place time == time

/-- Follows instructions up to those that take a byte, in at most `bound` steps; one that has
been met at the same time is left out. -/
def follow (program : Program) (holds : Assertion → Bool) (time : Nat) (waiting : List Nat)
    (marks : Array Nat) (matched : Bool) : List Nat → Nat → Front
  | [], _ | _, 0 => ⟨waiting, marks, matched⟩
  | place :: places, bound + 1 =>
      if isMet time marks place then
        follow program holds time waiting marks matched places bound
      else
        let marks := marks.set! place time
        match program.code[place]? with
        | some (.pass next) =>
            follow program holds time waiting marks matched (next :: places) bound
        | some (.split targets) =>
            follow program holds time waiting marks matched
              (targets.foldl (fun places target =>
                if isMet time marks target then places else target :: places) places) bound
        | some (.check assertion next) =>
            follow program holds time waiting marks matched
              (if holds assertion then next :: places else places) bound
        | some .accept => follow program holds time waiting marks true places bound
        | some _ => follow program holds time (place :: waiting) marks matched places bound
        | none => follow program holds time waiting marks matched places bound

/-- The front that is reached from some instructions. -/
def reach (program : Program) (holds : Assertion → Bool) (time : Nat) (marks : Array Nat)
    (places : List Nat) : Front :=
  follow program holds time [] marks false places (places.length + Draft.limit)

/-- Where an instruction goes on once it has taken a byte, if it can take it. -/
def target? (byte : UInt8) : Instruction → Option Nat
  | .byte edge => if edge.takes byte then some edge.next else none
  | .bytes edges => (edges.find? (·.takes byte)).map Edge.next
  | _ => none

/-- Takes a byte: the places where the waiting instructions go on. -/
def take (program : Program) (byte : UInt8) (waiting : List Nat) : List Nat :=
  waiting.foldl (fun found place =>
    match program.code[place]? with
    | some instruction =>
        match target? byte instruction with
        | some next => next :: found
        | none => found
    | none => found) []

/-- Takes the bytes of a character.  No assertion holds and no match ends between them. -/
def takeAll (program : Program) (time : Nat) (marks : Array Nat) (waiting : List Nat) :
    List UInt8 → List Nat × Nat × Array Nat
  | [] => (waiting, time, marks)
  | [byte] => (take program byte waiting, time, marks)
  | byte :: bytes =>
      let front :=
        reach program (fun _ => false) (time + 1) marks (take program byte waiting)
      takeAll program (time + 1) front.marks front.waiting bytes

/-- Whether a match ends in the text from some instructions on. -/
def search (program : Program) (before : Option Char) (time : Nat) (marks : Array Nat)
    (places : List Nat) : List Char → Bool
  | [] => (reach program (·.holds before none) time marks places).matched
  | char :: rest =>
      let front := reach program (·.holds before (some char)) time marks places
      if front.matched then
        true
      else
        let (places, time, marks) :=
          takeAll program time front.marks front.waiting (String.utf8EncodeChar char)
        search program (some char) (time + 1) marks places rest

/-- Whether some part of the text matches. -/
def occursIn (program : Program) (text : String) : Bool :=
  search program none 1 (Array.replicate program.code.size 0) [program.start] text.toList

end Extraction.Pattern.Program
