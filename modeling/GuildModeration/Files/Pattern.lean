import GuildModeration.Files.Tree

/-!
# Patterns for paths

A pattern stands for all paths of a certain shape. In a name, `?` stands for one character, `*` for
any number of them, and characters in brackets for any one of them or, after an exclamation mark,
for any other one. A name that is `**` stands for any number of directories. A pattern is checked as
a whole, and its names are checked once more by themselves, since a bracket may run over a slash.
-/

namespace GuildModeration.Files

/-- One character or a range of characters between brackets. -/
structure CharRange where
  first : Char
  last : Char
  deriving DecidableEq, Repr

/-- A part of a pattern. -/
inductive PatternPart where
  | char (c : Char)
  | anyChar
  | within (ranges : List CharRange)
  | without (ranges : List CharRange)
  /-- Any number of characters. -/
  | anyChars
  /-- Any number of directories. -/
  | anyDirectories
  deriving DecidableEq, Repr

/-- What is between brackets. -/
def charRanges : List Char → List CharRange
  | a :: '-' :: b :: rest => ⟨a, b⟩ :: charRanges rest
  | a :: rest => ⟨a, a⟩ :: charRanges rest
  | [] => []

/-- Some range holds the character. -/
def inCharRanges (ranges : List CharRange) (c : Char) : Bool :=
  ranges.any fun r ↦ decide (r.first ≤ c ∧ c ≤ r.last)

/-- What is between the brackets that were just opened, and the text behind them. The first
character never closes them. -/
def bracketed? : List Char → Option (List Char × List Char)
  | [] => none
  | c :: rest =>
    match rest.dropWhile (· != ']') with
    | _ :: after => some (c :: rest.takeWhile (· != ']'), after)
    | [] => none

/-- The part at a bracket that was just opened, and the text behind it. -/
def bracketPart? : List Char → Option (PatternPart × List Char)
  | '!' :: rest => (bracketed? rest).map fun (inside, after) ↦ (.without (charRanges inside), after)
  | cs => (bracketed? cs).map fun (inside, after) ↦ (.within (charRanges inside), after)

theorem length_lt_of_bracketed? {cs inside after : List Char}
    (h : bracketed? cs = some (inside, after)) : after.length < cs.length := by
  cases cs with
  | nil => simp [bracketed?] at h
  | cons c rest =>
    simp only [bracketed?] at h
    split at h
    · rename_i d tail hd
      simp only [Option.some.injEq, Prod.mk.injEq] at h
      obtain ⟨-, rfl⟩ := h
      have hle := (List.dropWhile_sublist (l := rest) (· != ']')).length_le
      rw [hd] at hle
      simp only [List.length_cons] at hle ⊢
      omega
    · cases h

theorem length_lt_of_bracketPart? {cs after : List Char} {part : PatternPart}
    (h : bracketPart? cs = some (part, after)) : after.length < cs.length := by
  unfold bracketPart? at h
  split at h
  · simp only [Option.map_eq_some_iff] at h
    obtain ⟨⟨inside, rest⟩, hb, he⟩ := h
    simp only [Prod.mk.injEq] at he
    obtain ⟨-, rfl⟩ := he
    exact Nat.lt_succ_of_lt (length_lt_of_bracketed? hb)
  · simp only [Option.map_eq_some_iff] at h
    obtain ⟨⟨inside, rest⟩, hb, he⟩ := h
    simp only [Prod.mk.injEq] at he
    obtain ⟨-, rfl⟩ := he
    exact length_lt_of_bracketed? hb

/-- The parts of a pattern; `starts` says that no other character of the same name stands before.
Two stars have to be a whole name, and there are never more than two. -/
def patternParts? (starts : Bool) : List Char → Option (List PatternPart)
  | [] => some []
  | '?' :: rest => (patternParts? false rest).map (.anyChar :: ·)
  | '*' :: '*' :: '*' :: _ => none
  | '*' :: '*' :: '/' :: rest =>
    if starts then (patternParts? true rest).map (.anyDirectories :: ·) else none
  | ['*', '*'] => if starts then some [.anyDirectories] else none
  | '*' :: '*' :: _ => none
  | '*' :: rest => (patternParts? false rest).map (.anyChars :: ·)
  | '[' :: rest =>
    match h : bracketPart? rest with
    | some (part, after) =>
      have : after.length < (('[' : Char) :: rest).length :=
        Nat.lt_succ_of_lt (length_lt_of_bracketPart? h)
      (patternParts? false after).map (part :: ·)
    | none => none
  | c :: rest => (patternParts? (c == '/') rest).map (.char c :: ·)
termination_by cs => cs.length
decreasing_by
  all_goals
    simp only [List.length_cons] at *
    omega

/-- The character that a part stands for, if there is only one. -/
def PatternPart.char? : PatternPart → Option Char
  | .char c => some c
  | _ => none

/-- The pattern of one name. -/
abbrev NamePattern := List PatternPart

namespace NamePattern

/-- The pattern stands for any number of directories. -/
def isAnyDirectories (p : NamePattern) : Bool :=
  p.contains .anyDirectories

/-- The only name that the pattern stands for, if it has no special parts. -/
def literal? (p : NamePattern) : Option String :=
  (p.mapM PatternPart.char?).map String.ofList

/-- The name has the shape of the pattern. -/
def matchesChars : NamePattern → List Char → Bool
  | [], cs => cs.isEmpty
  | .anyChars :: p, [] => matchesChars p []
  | .anyChars :: p, c :: cs => matchesChars p (c :: cs) || matchesChars (.anyChars :: p) cs
  | .anyDirectories :: p, cs => matchesChars p cs
  | .char d :: p, c :: cs => c == d && matchesChars p cs
  | .anyChar :: p, _ :: cs => matchesChars p cs
  | .within rs :: p, c :: cs => inCharRanges rs c && matchesChars p cs
  | .without rs :: p, c :: cs => !inCharRanges rs c && matchesChars p cs
  | _ :: _, [] => false
termination_by p cs => p.length + cs.length

/-- The last name of a place has the shape of the pattern. -/
def fits (p : NamePattern) (place : Place) : Bool :=
  (place.getLast?.map fun name ↦ p.matchesChars name.toList).getD false

end NamePattern

/-- A pattern for paths: one pattern for each name. -/
abbrev PathPattern := List NamePattern

/-- The pattern that a text spells. -/
def PathPattern.parse? (text : String) : Option PathPattern := do
  let _ ← patternParts? true text.toList
  (splitPath text.toList).mapM (patternParts? true)

namespace Tree

/-- The directories beside the children of a place that a pattern with a dot in front may mean: the
place itself and the one above it. -/
def dotPlaces (place : Place) (p : NamePattern) : List Place :=
  if p.head? != some (.char '.') then []
  else
    (if p.matchesChars ['.'] then [place] else []) ++
      (if p.matchesChars ['.', '.'] && !place.isEmpty then [place.dropLast] else [])

/-- The places below a place that a pattern stands for; a place is named once for each way in which
it fits. -/
def expand (t : Tree) : PathPattern → Place → List Place
  | [], place => [place]
  | p :: rest, place =>
    if p.isAnyDirectories then
      match rest with
      | [] => if t.isDirectory place then (t.descendants place).filter t.isDirectory else []
      | q :: rest =>
        if q.isAnyDirectories then t.expand (q :: rest) place
        else if !t.isDirectory place then []
        else ((t.descendants place).filter q.fits).flatMap (t.expand rest)
    else match p.literal? with
      | some name =>
        match t.step place name with
        | .ok next => t.expand rest next
        | .error _ => []
      | none =>
        if !t.isDirectory place then []
        else ((t.children place).filter p.fits).flatMap (t.expand rest) ++
          (dotPlaces place p).flatMap (t.expand rest)

/-- The places that a pattern stands for. -/
def glob (t : Tree) (path : String) (p : PathPattern) : List Place :=
  if isAbsolute path then [] else t.expand p []

end Tree

end GuildModeration.Files
