import GuildModeration.Yaml.Lexer

/-!
# Documents from tokens

The grammar of documents. A node may carry an anchor and a tag, in either order; where nothing is
written a blank scalar stands. Anchored nodes are numbered in the order in which they start. A name
takes as number how many names are in use at that time, so a name that is given anew moves on to a
later number, and of two nodes with one number the one that starts last is meant.
-/

namespace GuildModeration.Yaml

/-- What is left to read, and what has been named so far. -/
structure GrammarState where
  tokens : List Token
  /-- The handles of tags and what they stand for. -/
  handles : List (String × String) := []
  /-- The number of each anchor name in use. -/
  names : List (String × Nat) := []
  /-- The anchored nodes started so far; the latest last, by their anchor number. -/
  started : List Nat := []
  /-- The anchored nodes read so far, by their place among those started. -/
  finished : List (Nat × Node) := []

/-- A reader of some part of a document; `none` if the tokens do not form one. -/
abbrev Grammar := StateT GrammarState Option

namespace Grammar

/-- The next token. -/
def peek : Grammar (Option Token) := do
  return (← get).tokens.head?

/-- Passes over the next token. -/
def skip : Grammar Unit :=
  modify fun s ↦ { s with tokens := s.tokens.tail }

/-- Passes over the next token if it is `t`. -/
def skipIf (t : Token) : Grammar Bool := do
  if (← peek) == some t then
    skip
    return true
  else return false

/-- The next token is one of some tokens, or there is none. -/
def atAny (ts : List Token) : Grammar Bool := do
  return ((← peek).map ts.contains).getD true

/-! ## Properties of nodes -/

/-- The anchor and the tag of a node. -/
structure Properties where
  anchor : Option String := none
  tag : Option (String × String) := none

/-- The anchor and the tag at the front, in either order. -/
def properties : Grammar Properties := do
  match ← peek with
  | some (.anchor name) =>
    skip
    match ← peek with
    | some (.tag handle suffix) =>
      skip
      return ⟨some name, some (handle, suffix)⟩
    | _ => return ⟨some name, none⟩
  | some (.tag handle suffix) =>
    skip
    match ← peek with
    | some (.anchor name) =>
      skip
      return ⟨some name, some (handle, suffix)⟩
    | _ => return ⟨none, some (handle, suffix)⟩
  | _ => return {}

/-- The full tag of a handle and a suffix. -/
def fullTag (tag : Option (String × String)) : Grammar (Option String) := do
  match tag with
  | none => return none
  | some ("", suffix) => return some suffix
  | some (handle, suffix) =>
    match (← get).handles.lookup handle with
    | some expansion => return some (expansion ++ suffix)
    | none => failure

/-- Starts an anchored node: gives the name its number. -/
def startAnchor (anchor : Option String) : Grammar (Option Nat) := do
  match anchor with
  | none => return none
  | some name =>
    let s ← get
    let number := s.names.length
    set { s with
      names := (name, number) :: s.names.filter (·.1 != name)
      started := s.started ++ [number] }
    return some s.started.length

/-- Ends the anchored node that was started at a place. -/
def finishAnchor (place : Option Nat) (n : Node) : Grammar Node := do
  match place with
  | none => return n
  | some p =>
    modify fun s ↦ { s with finished := (p, n) :: s.finished }
    return n

/-! ## Nodes -/

/-- A scalar; the tag `!` says no more than that it has none. -/
def scalarNode (text : String) (style : Style) (tag : Option String) : Node :=
  .scalar { text, style, tag := tag.filter (· != "!") }

mutual

/-- A node. Block collections are allowed only where `block` says so, and a list whose dashes are
not indented only where `loose` says so. -/
def node : Nat → (block loose : Bool) → Grammar Node
  | 0, _, _ => failure
  | fuel + 1, block, loose => do
    match ← peek with
    | some (.reference name) =>
      skip
      match (← get).names.lookup name with
      | some number => return .ref number
      | none => failure
    | _ =>
      let props ← properties
      let tag ← fullTag props.tag
      let place ← startAnchor props.anchor
      let next ← peek
      let n ←
        if loose && next == some .blockEntry then do
          pure (.list tag (← looseItems fuel))
        else match next with
        | some (.scalar text style) => do
          skip
          pure (scalarNode text style tag)
        | some .flowListStart => do
          skip
          pure (.list tag (← flowItems fuel true))
        | some .flowMapStart => do
          skip
          pure (.map tag (← flowEntries fuel true))
        | _ =>
          if block && next == some .blockListStart then do
            skip
            pure (.list tag (← blockItems fuel))
          else if block && next == some .blockMapStart then do
            skip
            pure (.map tag (← blockEntries fuel))
          else if props.anchor.isSome || props.tag.isSome then
            pure (scalarNode "" .plain tag)
          else failure
      finishAnchor place n

/-- A node, or a blank one if the next token is one of those that end it. -/
def nodeUnless : Nat → (ends : List Token) → (block loose : Bool) → Grammar Node
  | 0, _, _, _ => failure
  | fuel + 1, ends, block, loose => do
    if ← atAny ends then return .blank else node fuel block loose

/-- The entries of a block list, and its end. -/
def blockItems : Nat → Grammar (List Node)
  | 0 => failure
  | fuel + 1 => do
    if ← skipIf .blockEntry then
      let item ← nodeUnless fuel [.blockEntry, .blockEnd] true false
      return item :: (← blockItems fuel)
    else if ← skipIf .blockEnd then return []
    else failure

/-- The entries of a list whose dashes are not indented. -/
def looseItems : Nat → Grammar (List Node)
  | 0 => failure
  | fuel + 1 => do
    if ← skipIf .blockEntry then
      let item ← nodeUnless fuel [.blockEntry, .key, .value, .blockEnd] true false
      return item :: (← looseItems fuel)
    else return []

/-- The entries of a block map, and its end. -/
def blockEntries : Nat → Grammar (List (Node × Node))
  | 0 => failure
  | fuel + 1 => do
    if ← skipIf .key then
      let key ← nodeUnless fuel [.key, .value, .blockEnd] true true
      let value ←
        if ← skipIf .value then nodeUnless fuel [.key, .value, .blockEnd] true true
        else pure .blank
      return (key, value) :: (← blockEntries fuel)
    else if ← skipIf .blockEnd then return []
    else failure

/-- The entries of a flow list, and its end; `first` before the first entry. -/
def flowItems : Nat → (first : Bool) → Grammar (List Node)
  | 0, _ => failure
  | fuel + 1, first => do
    if ← skipIf .flowListEnd then return []
    else if ← (if first then pure true else skipIf .flowEntry) then
      if ← skipIf .key then
        let entry ← singleEntry fuel
        return .map none [entry] :: (← flowItems fuel false)
      else if ← skipIf .flowListEnd then return []
      else
        let item ← node fuel false false
        return item :: (← flowItems fuel false)
    else failure

/-- The one entry of a map that is written inside a flow list, behind its key mark. A key that is
missing swallows the token after it. -/
def singleEntry : Nat → Grammar (Node × Node)
  | 0 => failure
  | fuel + 1 => do
    let key ←
      if ← atAny [.value, .flowEntry, .flowListEnd] then do
        skip
        pure .blank
      else node fuel false false
    let value ←
      if ← skipIf .value then nodeUnless fuel [.flowEntry, .flowListEnd] false false
      else pure .blank
    return (key, value)

/-- The entries of a flow map, and its end; `first` before the first entry. -/
def flowEntries : Nat → (first : Bool) → Grammar (List (Node × Node))
  | 0, _ => failure
  | fuel + 1, first => do
    if ← skipIf .flowMapEnd then return []
    else if ← (if first then pure true else skipIf .flowEntry) then
      if ← skipIf .key then
        let key ← nodeUnless fuel [.value, .flowEntry, .flowMapEnd] false false
        let value ←
          if ← skipIf .value then nodeUnless fuel [.flowEntry, .flowMapEnd] false false
          else pure .blank
        return (key, value) :: (← flowEntries fuel false)
      else if ← skipIf .flowMapEnd then return []
      else
        let key ← node fuel false false
        return (key, .blank) :: (← flowEntries fuel false)
    else failure

end

/-! ## Documents -/

/-- The handles that every document knows. -/
def standardHandles : List (String × String) := [("!", "!"), ("!!", "tag:yaml.org,2002:")]

/-- The directives at the front: whether the version was given, and the handles. -/
def directives : Nat → (versioned : Bool) → List (String × String) →
    Grammar (Bool × List (String × String))
  | 0, _, _ => failure
  | fuel + 1, versioned, handles => do
    match ← peek with
    | some (.version major minor) =>
      if versioned || major != 1 || (minor != 1 && minor != 2) then failure
      else
        skip
        directives fuel true handles
    | some (.handle name expansion) =>
      if (handles.lookup name).isSome then failure
      else
        skip
        directives fuel versioned (handles ++ [(name, expansion)])
    | _ => return (versioned, handles)

/-- The next token ends the content of a document. -/
def atContentEnd : Grammar Bool := do
  match ← peek with
  | none | some .documentStart | some .documentEnd | some (.version ..) | some (.handle ..) =>
    return true
  | _ => return false

/-- Passes over the ends of the document, which have to be the last tokens. -/
def finish : Nat → Grammar Unit
  | 0 => failure
  | fuel + 1 => do
    match ← peek with
    | none => return ()
    | some .documentEnd =>
      skip
      finish fuel
    | _ => failure

/-- The root of the only document. -/
def document (fuel : Nat) : Grammar (Option Node) := do
  if (← peek).isNone then return none
  let (versioned, handles) ← directives fuel false []
  modify fun s ↦ { s with handles := handles ++ standardHandles }
  let root ←
    if ← skipIf .documentStart then
      if ← atContentEnd then pure .blank else node fuel true false
    else if versioned || !handles.isEmpty then failure
    else node fuel true false
  finish fuel
  return some root

end Grammar

/-- The anchored nodes by their numbers, the one that started last for each. -/
def GrammarState.anchors (s : GrammarState) : List (Nat × Node) :=
  (s.started.zipIdx.filterMap fun (number, place) ↦
    (s.finished.lookup place).map fun n ↦ (number, n)).reverse

/-- The document that some tokens form, if they form one. -/
def Document.ofTokens? (tokens : List Token) : Option Document :=
  ((Grammar.document (3 * tokens.length + 8)).run { tokens }).map fun (root, s) ↦
    { root, anchors := s.anchors }

/-- The document that a text holds; `none` if the text is malformed or holds more than one. -/
def Document.parse? (text : String) : Option Document :=
  (tokens? text).bind Document.ofTokens?

end GuildModeration.Yaml
