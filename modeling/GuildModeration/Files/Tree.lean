/-!
# Trees of files

The files that the program finds around it: texts in bytes, and directories. A path is walked name
by name from the directory that the program runs in. Nothing outside of that directory is there.
-/

namespace GuildModeration.Files

/-- A place in the tree: the names that lead to it. -/
abbrev Place := List String

/-- What is at a place. -/
inductive Item where
  | file (bytes : List UInt8)
  | directory
  deriving DecidableEq, Repr

/-- The items that were put into the tree, the latest first. A directory on the way to an item is
there with it. -/
structure Tree where
  items : List (Place × Item) := []
  deriving Repr

/-- Why a path cannot be read as a text. -/
inductive ReadError where
  | missing
  /-- The path goes on below something that is no directory. -/
  | notDirectory
  | nameTooLong
  | isDirectory
  | notText
  deriving DecidableEq, Repr

/-- The wording of a failure. -/
def ReadError.message : ReadError → String
  | missing => "No such file or directory (os error 2)"
  | notDirectory => "Not a directory (os error 20)"
  | nameTooLong => "File name too long (os error 36)"
  | isDirectory => "Is a directory (os error 21)"
  | notText => "stream did not contain valid UTF-8"

/-! ## Paths -/

/-- The parts of a text between the slashes. -/
def splitPath : List Char → List (List Char)
  | [] => [[]]
  | '/' :: cs => [] :: splitPath cs
  | c :: cs =>
    match splitPath cs with
    | part :: parts => (c :: part) :: parts
    | [] => [[c]]

/-- The parts of a path. -/
def pathNames (path : String) : List String :=
  (splitPath path.toList).map String.ofList

/-- The path does not start where the program runs. -/
def isAbsolute (path : String) : Bool :=
  path.toList.head? == some '/'

/-- The path of a name below a directory. -/
def joinPath (dir name : String) : String :=
  if dir.isEmpty || dir.toList.getLast? == some '/' then dir ++ name else dir ++ "/" ++ name

/-- The largest number of bytes in a name. -/
def maxNameSize : Nat := 255

namespace Tree

/-- The tree with an item put in at a path. -/
def put (t : Tree) (path : String) (item : Item) : Tree :=
  ⟨((pathNames path).filter fun n ↦ !n.isEmpty && n != ".", item) :: t.items⟩

/-- What is at a place. -/
def item? (t : Tree) (p : Place) : Option Item :=
  if p.isEmpty then some .directory
  else match t.items.lookup p with
    | some item => some item
    | none => if t.items.any fun e ↦ p.isPrefixOf e.1 then some .directory else none

/-- A directory is at the place. -/
def isDirectory (t : Tree) (p : Place) : Bool :=
  t.item? p == some .directory

/-- All places in the tree, apart from the root. -/
def places (t : Tree) : List Place :=
  (t.items.flatMap fun e ↦ (List.range e.1.length).map fun n ↦ e.1.take (n + 1)).eraseDups

/-- The places right below a place. -/
def children (t : Tree) (p : Place) : List Place :=
  t.places.filter fun q ↦ q.dropLast == p

/-- The places anywhere below a place. -/
def descendants (t : Tree) (p : Place) : List Place :=
  t.places.filter fun q ↦ p.isPrefixOf q && p.length < q.length

/-- One step on a path from a place. -/
def step (t : Tree) (p : Place) (name : String) : Except ReadError Place :=
  if !t.isDirectory p then .error .notDirectory
  else if maxNameSize < name.utf8ByteSize then .error .nameTooLong
  else if name.isEmpty || name == "." then .ok p
  else if name == ".." then if p.isEmpty then .error .missing else .ok p.dropLast
  else if (t.item? (p ++ [name])).isSome then .ok (p ++ [name])
  else .error .missing

/-- The place that a path leads to. -/
def walk (t : Tree) (path : String) : Except ReadError Place :=
  if isAbsolute path then .error .missing
  else (pathNames path).foldlM t.step []

/-- The text at a path. -/
def readText (t : Tree) (path : String) : Except ReadError String := do
  match t.item? (← t.walk path) with
  | some (.file bytes) =>
    match String.fromUTF8? ⟨bytes.toArray⟩ with
    | some text => return text
    | none => throw .notText
  | some .directory => throw .isDirectory
  | none => throw .missing

end Tree

end GuildModeration.Files
