/-!
# Document trees

A YAML document as a tree of scalars, lists and maps. A scalar keeps its text and the way it was
written, since the same text means a number or a truth value when it is plain and a text when it is
quoted. References to anchored nodes stay in the tree and are looked up in the document.
-/

namespace GuildModeration.Yaml

/-- How a scalar is written: bare, as a block of literal lines, or in one of the other ways. -/
inductive Style where
  | plain
  | literal
  | quoted
  deriving DecidableEq, Repr, Inhabited

/-- A scalar with its full tag, if it has one. -/
structure Scalar where
  text : String
  style : Style := .plain
  tag : Option String := none
  deriving DecidableEq, Repr, Inhabited

/-- A node of a document; `ref` stands for the node with that anchor number. -/
inductive Node where
  | scalar (s : Scalar)
  | list (tag : Option String) (items : List Node)
  | map (tag : Option String) (entries : List (Node × Node))
  | ref (anchor : Nat)
  deriving Repr, Inhabited

/-- A document; one without a root has no content at all. -/
structure Document where
  root : Option Node := none
  anchors : List (Nat × Node) := []
  deriving Repr, Inhabited

namespace Node

/-- A bare scalar. -/
def plain (text : String) : Node := .scalar { text }

/-- A quoted text. -/
def quoted (text : String) : Node := .scalar { text, style := .quoted }

/-- A list without a tag. -/
def ofList (items : List Node) : Node := .list none items

/-- A map without a tag whose keys are bare words. -/
def ofFields (fields : List (String × Node)) : Node :=
  .map none (fields.map fun f ↦ (plain f.1, f.2))

/-- The scalar that stands where nothing is written. -/
def blank : Node := plain ""

end Node

/-- The document that consists of one node. -/
def Document.ofNode (n : Node) : Document := { root := some n }

/-- The node that is meant: for a reference the anchored node. -/
def Document.resolve (d : Document) : Node → Node
  | .ref anchor => (d.anchors.lookup anchor).getD (.ref anchor)
  | n => n

end GuildModeration.Yaml
