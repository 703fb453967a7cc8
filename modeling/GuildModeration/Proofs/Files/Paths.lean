import Mathlib.Data.List.Infix
import GuildModeration.Files.Tree

/-!
# Paths and places

The names of a path are found between its slashes, so that a path with a name put behind it leads one
step further: `Tree.walk_joinPath` says it for all paths, those that end in a slash included. What is
right below a place is what is there under one more name, each place once.
-/

namespace GuildModeration.Files

/-! ## The names of a path -/

theorem splitPath_ne_nil (cs : List Char) : splitPath cs ≠ [] := by
  fun_cases splitPath cs <;> simp

theorem splitPath_append_slash (cs rest : List Char) :
    splitPath (cs ++ '/' :: rest) = splitPath cs ++ splitPath rest := by
  induction cs with
  | nil => rfl
  | cons c cs ih =>
    by_cases hslash : c = '/'
    · rw [hslash, List.cons_append, splitPath, splitPath, ih, List.cons_append]
    · obtain ⟨part, parts, hparts⟩ := List.exists_cons_of_ne_nil (splitPath_ne_nil cs)
      rw [List.cons_append, splitPath.eq_3 _ _ hslash, splitPath.eq_3 _ _ hslash, ih, hparts]
      rfl

/-- A text without slashes is one name. -/
theorem splitPath_of_notMem {cs : List Char} (h : '/' ∉ cs) : splitPath cs = [cs] := by
  induction cs with
  | nil => rfl
  | cons c cs ih =>
    rw [splitPath.eq_3 _ _ (List.ne_of_not_mem_cons h).symm, ih (List.not_mem_of_not_mem_cons h)]

theorem pathNames_slash (path name : String) :
    pathNames (path ++ "/" ++ name) = pathNames path ++ pathNames name := by
  rw [pathNames, String.toList_append, String.toList_append, List.append_assoc]
  exact (congrArg (List.map String.ofList) (splitPath_append_slash _ _)).trans List.map_append

theorem pathNames_of_notMem {name : String} (h : '/' ∉ name.toList) : pathNames name = [name] := by
  rw [pathNames, splitPath_of_notMem h, List.map_singleton, String.ofList_toList]

/-- The name is the last one of the path; a slash at the end of the directory does not count. -/
theorem pathNames_joinPath (dir : String) {name : String} (h : '/' ∉ name.toList) :
    ∃ names, pathNames (joinPath dir name) = names ++ [name] ∧
      (pathNames dir = names ∨ pathNames dir = names ++ [""]) := by
  by_cases hempty : dir = ""
  · subst hempty
    exact ⟨[], pathNames_of_notMem h, Or.inr rfl⟩
  by_cases hlast : dir.toList.getLast? = some '/'
  · obtain ⟨cs, hcs⟩ := List.getLast?_eq_some_iff.mp hlast
    obtain rfl : dir = String.ofList cs ++ "/" := by
      rw [← String.toList_inj, hcs, String.toList_append, String.toList_ofList]
      rfl
    refine ⟨pathNames (String.ofList cs), ?_, Or.inr ?_⟩
    · rw [joinPath, if_pos (by simp), pathNames_slash, pathNames_of_notMem h]
    · have hnames := pathNames_slash (String.ofList cs) ""
      rwa [String.append_empty] at hnames
  · refine ⟨pathNames dir, ?_, Or.inl rfl⟩
    rw [joinPath, if_neg (by simp [hempty, hlast]), pathNames_slash, pathNames_of_notMem h]

theorem isAbsolute_joinPath (dir : String) {name : String} (h : '/' ∉ name.toList) :
    isAbsolute (joinPath dir name) = isAbsolute dir := by
  by_cases hempty : dir = ""
  · subst hempty
    rw [joinPath, if_pos (by simp), String.empty_append, isAbsolute]
    exact beq_eq_false_iff_ne.mpr fun hhead ↦ h (List.mem_of_mem_head? hhead)
  · obtain ⟨c, cs, hdir⟩ := List.exists_cons_of_ne_nil (mt String.toList_eq_nil_iff.mp hempty)
    rw [joinPath, isAbsolute, isAbsolute]
    split <;> simp [hdir]

namespace Tree

variable {t : Tree}

/-! ## Walking on -/

theorem step_of_not_isDirectory {p : Place} (h : t.isDirectory p = false) (name : String) :
    t.step p name = .error .notDirectory := by
  rw [step, h]
  rfl

theorem step_empty {p : Place} (h : t.isDirectory p = true) : t.step p "" = .ok p := by
  rw [step, h]
  rfl

theorem foldlM_step_singleton (t : Tree) (p : Place) (name : String) :
    [name].foldlM t.step p = t.step p name := by
  rw [List.foldlM_cons]
  exact bind_pure _

/-- A path leads one step further than that of its directory. -/
theorem walk_joinPath (t : Tree) (dir : String) {name : String} (h : '/' ∉ name.toList) :
    t.walk (joinPath dir name) = t.walk dir >>= fun p ↦ t.step p name := by
  obtain ⟨names, hnames, hdir⟩ := pathNames_joinPath dir h
  rw [walk, walk, isAbsolute_joinPath dir h]
  split
  · rfl
  rw [hnames, List.foldlM_append]
  rcases hdir with hdir | hdir
  · rw [hdir]
    exact bind_congr fun p ↦ foldlM_step_singleton t p name
  · rw [hdir, List.foldlM_append, bind_assoc]
    refine bind_congr fun p ↦ ?_
    rw [foldlM_step_singleton, foldlM_step_singleton]
    cases hp : t.isDirectory p with
    | true =>
      rw [step_empty hp]
      rfl
    | false =>
      rw [step_of_not_isDirectory hp, step_of_not_isDirectory hp]
      rfl

/-- A text is missing exactly if the path leads nowhere. What the path leads to may be no text. -/
theorem readText_eq_missing_iff {path : String} :
    t.readText path = .error .missing ↔
      t.walk path = .error .missing ∨ ∃ p, t.walk path = .ok p ∧ t.item? p = none := by
  rw [readText]
  cases t.walk path with
  | error e => simp [bind, Except.bind]
  | ok p =>
    cases hitem : t.item? p with
    | none => simp [bind, Except.bind, hitem, throw, throwThe, MonadExceptOf.throw]
    | some item =>
      cases item with
      | directory => simp [bind, Except.bind, hitem, throw, throwThe, MonadExceptOf.throw]
      | file bytes =>
        cases htext : String.fromUTF8? ⟨bytes.toArray⟩ <;>
          simp [bind, Except.bind, hitem, htext, throw, throwThe, MonadExceptOf.throw, pure,
            Except.pure]

/-! ## What is below a place -/

theorem nodup_eraseDups (places : List Place) : places.eraseDups.Nodup := by
  induction hn : places.length using Nat.strong_induction_on generalizing places with
  | _ n ih =>
    cases places with
    | nil => exact List.nodup_nil
    | cons p places =>
      rw [List.eraseDups_cons, List.nodup_cons, List.mem_eraseDups]
      have hlt : (places.filter fun q ↦ !q == p).length < n := by
        rw [← hn]
        exact Nat.lt_succ_of_le (List.length_filter_le _ _)
      exact ⟨by simp, ih _ hlt _ rfl⟩

theorem isSome_item?_iff {q : Place} (h : q ≠ []) :
    (t.item? q).isSome ↔ ∃ e ∈ t.items, q <+: e.1 := by
  rw [item?, if_neg (mt List.isEmpty_iff.mp h)]
  cases hlookup : t.items.lookup q with
  | some item =>
    obtain ⟨before, after, hitems, -⟩ := List.lookup_eq_some_iff.mp hlookup
    refine iff_of_true rfl ⟨(q, item), ?_, List.prefix_refl q⟩
    rw [hitems]
    exact List.mem_append_right _ List.mem_cons_self
  | none =>
    have hany : (t.items.any fun e ↦ q.isPrefixOf e.1) = true ↔ ∃ e ∈ t.items, q <+: e.1 := by
      simp [List.any_eq_true, List.isPrefixOf_iff_prefix]
    rw [← hany]
    cases t.items.any fun e ↦ q.isPrefixOf e.1 <;> simp

theorem mem_places_iff {q : Place} : q ∈ t.places ↔ q ≠ [] ∧ (t.item? q).isSome := by
  rw [places, List.mem_eraseDups, List.mem_flatMap]
  constructor
  · rintro ⟨e, he, hq⟩
    obtain ⟨n, hn, rfl⟩ := List.mem_map.mp hq
    have hne : e.1.take (n + 1) ≠ [] := by
      intro htake
      rw [List.take_eq_nil_iff] at htake
      rcases htake with hzero | hnil
      · cases hzero
      · simp [hnil] at hn
    exact ⟨hne, (isSome_item?_iff hne).mpr ⟨e, he, List.take_prefix _ _⟩⟩
  · rintro ⟨hne, hitem⟩
    obtain ⟨e, he, hprefix⟩ := (isSome_item?_iff hne).mp hitem
    have hpos := List.length_pos_iff.mpr hne
    refine ⟨e, he, List.mem_map.mpr ⟨q.length - 1, List.mem_range.mpr ?_, ?_⟩⟩
    · exact Nat.lt_of_lt_of_le (Nat.sub_one_lt_of_lt hpos) hprefix.length_le
    · rw [Nat.sub_add_cancel hpos, ← List.prefix_iff_eq_take.mp hprefix]

theorem mem_children_iff {p q : Place} :
    q ∈ t.children p ↔ ∃ name, q = p ++ [name] ∧ (t.item? q).isSome := by
  rw [children, List.mem_filter, mem_places_iff, beq_iff_eq]
  constructor
  · rintro ⟨⟨hne, hitem⟩, rfl⟩
    exact ⟨q.getLast hne, (List.dropLast_concat_getLast hne).symm, hitem⟩
  · rintro ⟨name, rfl, hitem⟩
    exact ⟨⟨List.concat_ne_nil _ _, hitem⟩, List.dropLast_concat⟩

theorem nodup_children (t : Tree) (p : Place) : (t.children p).Nodup :=
  (nodup_eraseDups _).filter _

end Tree

end GuildModeration.Files
