import GuildModeration.Files.Pattern
import GuildModeration.Proofs.Files.Paths

/-!
# Plain names in patterns

A text in which no character has a meaning of its own is the pattern of itself, and so leads where it
leads as a path. Behind the plain path of a directory a pattern for one name therefore stands for
what fits below that directory: `Tree.glob_joinPath`.
-/

namespace GuildModeration.Files

/-- No character of the text has a meaning in patterns. A closing bracket has none by itself. -/
def IsPlain (cs : List Char) : Prop :=
  ∀ c ∈ cs, c ≠ '?' ∧ c ≠ '*' ∧ c ≠ '['

instance (cs : List Char) : Decidable (IsPlain cs) :=
  decidable_of_iff (cs.all fun c ↦ c != '?' && c != '*' && c != '[')
    (by simp [IsPlain, and_assoc])

/-- The pattern of a name and of nothing else. -/
def NamePattern.literal (cs : List Char) : NamePattern :=
  cs.map .char

/-- The pattern of all names that end in a text. -/
def NamePattern.endsIn (cs : List Char) : NamePattern :=
  .anyChars :: literal cs

/-! ## Reading patterns -/

theorem patternParts?_cons {c : Char} (h : c ≠ '?' ∧ c ≠ '*' ∧ c ≠ '[') (starts : Bool)
    (rest : List Char) :
    patternParts? starts (c :: rest) = (patternParts? (c == '/') rest).map (.char c :: ·) := by
  obtain ⟨hquestion, hstar, hbracket⟩ := h
  exact patternParts?.eq_9 starts c rest hquestion (fun _ hc _ ↦ hstar hc) (fun _ hc _ ↦ hstar hc)
    (fun hc _ ↦ hstar hc) (fun _ hc _ ↦ hstar hc) hstar hbracket

/-- Plain characters in front stand for themselves. -/
theorem patternParts?_append {cs rest : List Char} {p : NamePattern} (h : IsPlain cs)
    (hrest : ∀ starts, patternParts? starts rest = some p) (starts : Bool) :
    patternParts? starts (cs ++ rest) = some (NamePattern.literal cs ++ p) := by
  induction cs generalizing starts with
  | nil => exact hrest starts
  | cons c cs ih =>
    obtain ⟨hc, hcs⟩ := List.forall_mem_cons.mp h
    rw [List.cons_append, patternParts?_cons hc, ih hcs, Option.map_some]
    rfl

theorem patternParts?_of_isPlain {cs : List Char} (h : IsPlain cs) (starts : Bool) :
    patternParts? starts cs = some (NamePattern.literal cs) := by
  have hnil : ∀ starts, patternParts? starts [] = some [] := fun _ ↦ by rw [patternParts?]
  have hparts := patternParts?_append h hnil starts
  rwa [List.append_nil, List.append_nil] at hparts

theorem subset_of_mem_splitPath {cs part : List Char} (h : part ∈ splitPath cs) : part ⊆ cs := by
  induction cs generalizing part with
  | nil =>
    rw [splitPath, List.mem_singleton] at h
    exact h ▸ List.Subset.refl _
  | cons c cs ih =>
    by_cases hslash : c = '/'
    · rw [hslash, splitPath, List.mem_cons] at h
      rcases h with rfl | h
      · exact List.nil_subset _
      · exact List.subset_cons_of_subset _ (ih h)
    · obtain ⟨first, parts, hparts⟩ := List.exists_cons_of_ne_nil (splitPath_ne_nil cs)
      rw [splitPath.eq_3 _ _ hslash, hparts] at h
      rw [hparts] at ih
      rcases List.mem_cons.mp h with rfl | h
      · exact List.cons_subset_cons c (ih List.mem_cons_self)
      · exact List.subset_cons_of_subset _ (ih (List.mem_cons_of_mem _ h))

namespace NamePattern

theorem isAnyDirectories_literal (cs : List Char) : (literal cs).isAnyDirectories = false := by
  rw [isAnyDirectories, literal]
  simp

theorem literal?_literal (cs : List Char) : (literal cs).literal? = some (String.ofList cs) := by
  have hchars : (literal cs).mapM PatternPart.char? = some cs := by
    induction cs with
    | nil => rfl
    | cons c cs ih =>
      change (literal cs).mapM PatternPart.char? = some cs at ih
      rw [literal, List.map_cons, List.mapM_cons]
      change (do let cs' ← (literal cs).mapM PatternPart.char?; pure (c :: cs')) = some (c :: cs)
      rw [ih]
      rfl
  rw [literal?, hchars, Option.map_some]

theorem matchesChars_literal {cs ds : List Char} :
    (literal cs).matchesChars ds = true ↔ ds = cs := by
  induction cs generalizing ds with
  | nil => rw [literal, List.map_nil, matchesChars, List.isEmpty_iff]
  | cons c cs ih =>
    rw [literal, List.map_cons]
    cases ds with
    | nil => simp [matchesChars]
    | cons d ds =>
      rw [matchesChars, Bool.and_eq_true, beq_iff_eq, List.cons.injEq]
      exact and_congr_right fun _ ↦ ih

/-- A star stands for whatever is in front of the rest. -/
theorem matchesChars_anyChars {p : NamePattern} {cs : List Char} :
    matchesChars (.anyChars :: p) cs = true ↔ ∃ rest, rest <:+ cs ∧ p.matchesChars rest = true := by
  induction cs with
  | nil =>
    rw [matchesChars]
    simp
  | cons c cs ih =>
    rw [matchesChars, Bool.or_eq_true, ih]
    constructor
    · rintro (h | ⟨rest, hsuffix, h⟩)
      · exact ⟨_, List.suffix_refl _, h⟩
      · exact ⟨rest, hsuffix.trans (List.suffix_cons c cs), h⟩
    · rintro ⟨rest, hsuffix, h⟩
      rcases List.suffix_cons_iff.mp hsuffix with rfl | hsuffix
      · exact Or.inl h
      · exact Or.inr ⟨rest, hsuffix, h⟩

theorem matchesChars_endsIn {cs ds : List Char} :
    (endsIn cs).matchesChars ds = true ↔ cs <:+ ds := by
  rw [endsIn, matchesChars_anyChars]
  constructor
  · rintro ⟨rest, hsuffix, hmatches⟩
    exact matchesChars_literal.mp hmatches ▸ hsuffix
  · intro hsuffix
    exact ⟨cs, hsuffix, matchesChars_literal.mpr rfl⟩

theorem fits_concat (q : NamePattern) (p : Place) (name : String) :
    q.fits (p ++ [name]) = q.matchesChars name.toList := by
  rw [fits, List.getLast?_concat]
  rfl

end NamePattern

/-! ## Patterns below plain directories -/

theorem IsPlain.mapM_patternParts? {names : List (List Char)} (h : ∀ cs ∈ names, IsPlain cs) :
    names.mapM (patternParts? true) = some (names.map NamePattern.literal) := by
  induction names with
  | nil => rfl
  | cons cs names ih =>
    obtain ⟨hcs, hnames⟩ := List.forall_mem_cons.mp h
    rw [List.mapM_cons, patternParts?_of_isPlain hcs, ih hnames]
    rfl

theorem toList_joinPath (dir name : String) :
    ∃ front, (joinPath dir name).toList = front ++ name.toList ∧
      (front = dir.toList ∨ front = dir.toList ++ ['/']) := by
  rw [joinPath]
  split
  · exact ⟨_, String.toList_append, Or.inl rfl⟩
  · exact ⟨_, by rw [String.toList_append, String.toList_append]; rfl, Or.inr rfl⟩

/-- The path of a plain directory with a pattern for one name behind it is read as the names of the
path and this pattern. -/
theorem parse?_joinPath {dir name : String} {q : NamePattern} (hdir : IsPlain dir.toList)
    (hname : '/' ∉ name.toList) (hq : ∀ starts, patternParts? starts name.toList = some q) :
    ∃ names, PathPattern.parse? (joinPath dir name) =
        some (names.map (fun n ↦ NamePattern.literal n.toList) ++ [q]) ∧
      (pathNames dir = names ∨ pathNames dir = names ++ [""]) := by
  obtain ⟨names, hnames, hsame⟩ := pathNames_joinPath dir hname
  obtain ⟨front, hfront, hcases⟩ := toList_joinPath dir name
  refine ⟨names, ?_, hsame⟩
  have hplain : IsPlain front := by
    rcases hcases with rfl | rfl
    · exact hdir
    · exact List.forall_mem_append.mpr ⟨hdir, by simp⟩
  have hsplit : splitPath (joinPath dir name).toList = names.map String.toList ++ [name.toList] := by
    have hlists := congrArg (List.map String.toList) hnames
    rw [pathNames, List.map_map, List.map_append] at hlists
    simpa [Function.comp_def] using hlists
  have hparts : ∀ cs ∈ names.map String.toList, IsPlain cs := by
    intro cs hcs
    obtain ⟨n, hn, rfl⟩ := List.mem_map.mp hcs
    have hmem : n ∈ pathNames dir := by
      rcases hsame with h | h
      · exact h ▸ hn
      · exact h ▸ List.mem_append_left _ hn
    obtain ⟨part, hpart, rfl⟩ := List.mem_map.mp hmem
    rw [String.toList_ofList]
    exact fun c hc ↦ hdir c (subset_of_mem_splitPath hpart hc)
  rw [PathPattern.parse?, hfront, patternParts?_append hplain hq, ← hfront, hsplit,
    List.mapM_append, IsPlain.mapM_patternParts? hparts, List.mapM_cons, hq, List.map_map]
  rfl

namespace Tree

variable {t : Tree}

theorem expand_cons_of_literal {q : NamePattern} (hdirectories : q.isAnyDirectories = false)
    {name : String} (hliteral : q.literal? = some name) (p : PathPattern) (place : Place) :
    t.expand (q :: p) place =
      match t.step place name with
      | .ok next => t.expand p next
      | .error _ => [] := by
  rw [expand.eq_def]
  cases hstep : t.step place name <;>
    simp only [hdirectories, hliteral, hstep, Bool.false_eq_true, if_false]

/-- Names that stand for themselves lead on as in a path. -/
theorem expand_literal (names : List String) (p : PathPattern) (place : Place) :
    t.expand (names.map (fun name ↦ NamePattern.literal name.toList) ++ p) place =
      match names.foldlM t.step place with
      | .ok q => t.expand p q
      | .error _ => [] := by
  induction names generalizing place with
  | nil => rfl
  | cons name names ih =>
    rw [List.map_cons, List.cons_append,
      expand_cons_of_literal (NamePattern.isAnyDirectories_literal _)
        (NamePattern.literal?_literal _), String.ofList_toList, List.foldlM_cons]
    cases t.step place name with
    | ok q => exact ih q
    | error e => rfl

theorem expand_endsIn (cs : List Char) (place : Place) :
    t.expand [NamePattern.endsIn cs] place =
      if t.isDirectory place then (t.children place).filter (NamePattern.endsIn cs).fits else [] := by
  have hdirectories : (NamePattern.endsIn cs).isAnyDirectories = false := by
    simp [NamePattern.isAnyDirectories, NamePattern.endsIn, NamePattern.literal]
  have hliteral : (NamePattern.endsIn cs).literal? = none := by
    rw [NamePattern.literal?, NamePattern.endsIn, List.mapM_cons]
    rfl
  have hdots : dotPlaces place (NamePattern.endsIn cs) = [] := rfl
  have hexpand : t.expand [] = fun place ↦ [place] := by
    funext place
    rw [expand]
  rw [expand.eq_def]
  dsimp only
  rw [hdirectories, if_neg Bool.false_ne_true, hliteral, hdots, hexpand]
  dsimp only
  rw [List.flatMap_nil, List.append_nil, List.flatMap_singleton']
  cases t.isDirectory place <;> rfl

/-- A pattern for names behind a plain directory finds what fits in the directory. -/
theorem glob_joinPath (t : Tree) {dir name : String} {cs : List Char} (hdir : IsPlain dir.toList)
    (hname : '/' ∉ name.toList)
    (hq : ∀ starts, patternParts? starts name.toList = some (NamePattern.endsIn cs)) :
    ∃ p, PathPattern.parse? (joinPath dir name) = some p ∧
      t.glob (joinPath dir name) p =
        match t.walk dir with
        | .ok place =>
          if t.isDirectory place then (t.children place).filter (NamePattern.endsIn cs).fits else []
        | .error _ => [] := by
  obtain ⟨names, hparse, hsame⟩ := parse?_joinPath hdir hname hq
  refine ⟨_, hparse, ?_⟩
  rw [glob, walk, isAbsolute_joinPath dir hname]
  cases habsolute : isAbsolute dir with
  | true => rfl
  | false =>
    rw [if_neg Bool.false_ne_true, if_neg Bool.false_ne_true, expand_literal]
    rcases hsame with h | h
    · rw [h]
      cases names.foldlM t.step [] with
      | ok place => exact expand_endsIn cs place
      | error e => rfl
    · rw [h, List.foldlM_append]
      cases names.foldlM t.step [] with
      | ok place =>
        -- the empty name behind the last slash is there in a directory and in nothing else
        change t.expand [NamePattern.endsIn cs] place = match [""].foldlM t.step place with
          | .ok place => _
          | .error _ => _
        rw [foldlM_step_singleton, expand_endsIn]
        cases hplace : t.isDirectory place with
        | true =>
          rw [step_empty hplace]
          exact (if_pos hplace).symm
        | false =>
          rw [step_of_not_isDirectory hplace]
          rfl
      | error e => rfl

end Tree

end GuildModeration.Files
