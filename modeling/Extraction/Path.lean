/-!
# Paths

A path leads from the root of the input to a value inside it.
-/

namespace Extraction

/-- One step of a path. -/
inductive Segment where
  | field (name : String)
  | index (position : Nat)
deriving DecidableEq, Repr

namespace Segment

/-- Fields are shown by name, indices in brackets. -/
def render : Segment → String
  | field name => name
  | index position => "[" ++ Nat.repr position ++ "]"

end Segment

/-- The segments from the root to a place. -/
@[ext]
structure Path where
  segments : List Segment
deriving DecidableEq, Repr

namespace Path

/-- The path of the whole input. -/
def root : Path :=
  ⟨[]⟩

/-- The path of one segment, a field. -/
def ofField (name : String) : Path :=
  ⟨[.field name]⟩

/-- The path one segment further down. -/
def push (path : Path) (segment : Segment) : Path :=
  ⟨path.segments ++ [segment]⟩

/-- The path of a field. -/
def pushField (path : Path) (name : String) : Path :=
  path.push (.field name)

/-- The path of an item. -/
def pushIndex (path : Path) (position : Nat) : Path :=
  path.push (.index position)

/-- One path followed by another. -/
instance : Append Path :=
  ⟨fun first second => ⟨first.segments ++ second.segments⟩⟩

/-- Whether the path is the root. -/
def isRoot (path : Path) : Bool :=
  path.segments.isEmpty

/-- The number of segments. -/
def length (path : Path) : Nat :=
  path.segments.length

/-- The path without its last segment; the root has none. -/
def parent? (path : Path) : Option Path :=
  if path.isRoot then none else some ⟨path.segments.dropLast⟩

/-- The last segment; the root has none. -/
def last? (path : Path) : Option Segment :=
  path.segments.getLast?

/-- The segments in order, separated by arrows. -/
def render (path : Path) : String :=
  " > ".intercalate (path.segments.map Segment.render)

@[simp]
theorem segments_append (first second : Path) :
    (first ++ second).segments = first.segments ++ second.segments :=
  rfl

@[simp]
theorem segments_push (path : Path) (segment : Segment) :
    (path.push segment).segments = path.segments ++ [segment] :=
  rfl

@[simp]
theorem append_push (first second : Path) (segment : Segment) :
    (first ++ second).push segment = first ++ second.push segment := by
  ext1
  simp

@[simp]
theorem append_pushField (first second : Path) (name : String) :
    (first ++ second).pushField name = first ++ second.pushField name :=
  append_push first second (.field name)

@[simp]
theorem append_pushIndex (first second : Path) (position : Nat) :
    (first ++ second).pushIndex position = first ++ second.pushIndex position :=
  append_push first second (.index position)

@[simp]
theorem append_root (path : Path) : path ++ root = path := by
  ext1
  simp [root]

@[simp]
theorem root_append (path : Path) : root ++ path = path :=
  rfl

theorem append_assoc (first second third : Path) :
    first ++ second ++ third = first ++ (second ++ third) := by
  ext1
  simp

@[simp]
theorem parent?_push (path : Path) (segment : Segment) :
    (path.push segment).parent? = some path := by
  cases path
  simp [parent?, push, isRoot]

@[simp]
theorem last?_push (path : Path) (segment : Segment) :
    (path.push segment).last? = some segment := by
  simp [last?]

end Path

end Extraction
