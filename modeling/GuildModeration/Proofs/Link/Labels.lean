import GuildModeration.Proofs.Link.Suffixes

/-!
# Labels

The labels of a host are what its dots separate. A site that covers a host makes up the last labels
of the host. So if the site has two labels or more, the last two of it are those of the host; if it
has one, it is the last label of the host and no more is known.
-/

namespace GuildModeration.Link

open GuildModeration.Text

/-! ## Between the dots -/

/-- The labels of a host, from left to right. -/
def labelsOf (host : List Char) : List (List Char) :=
  host.splitOn '.'

theorem labelsOf_ne_nil (cs : List Char) : labelsOf cs ≠ [] :=
  List.splitOnP_ne_nil _ cs

theorem labelsOf_append (a b : List Char) :
    labelsOf (a ++ '.' :: b) = labelsOf a ++ labelsOf b :=
  List.splitOnP_append_cons a b rfl

theorem labelsOf_of_not_mem {cs : List Char} (h : '.' ∉ cs) : labelsOf cs = [cs] :=
  List.splitOn_eq_singleton h

theorem labelsOf_cons_dot (cs : List Char) : labelsOf ('.' :: cs) = [] :: labelsOf cs := by
  rw [← List.nil_append ('.' :: cs), labelsOf_append]
  rfl

/-- Any other character belongs to the first label. -/
theorem labelsOf_cons {c : Char} (h : c ≠ '.') (cs : List Char) :
    labelsOf (c :: cs) = (labelsOf cs).modifyHead (List.cons c) := by
  rw [labelsOf, List.splitOn, List.splitOnP_cons_eq_if_modifyHead, if_neg (by simpa using h)]
  rfl

/-- A character stands in one of the labels, or is a dot. -/
theorem exists_label_of_mem {cs : List Char} {c : Char} (h : c ∈ cs) (hc : c ≠ '.') :
    ∃ label ∈ labelsOf cs, c ∈ label := by
  induction cs with
  | nil => cases h
  | cons d cs ih =>
    by_cases hd : d = '.'
    · subst hd
      obtain ⟨label, hlabel, hmem⟩ := ih ((List.mem_cons.mp h).resolve_left hc)
      rw [labelsOf_cons_dot]
      exact ⟨label, List.mem_cons_of_mem _ hlabel, hmem⟩
    · obtain ⟨first, more, hlabels⟩ := List.exists_cons_of_ne_nil (labelsOf_ne_nil cs)
      rw [hlabels] at ih
      rw [labelsOf_cons hd, hlabels, List.modifyHead_cons]
      rcases List.mem_cons.mp h with rfl | h
      · exact ⟨_, List.mem_cons_self, List.mem_cons_self⟩
      · obtain ⟨label, hlabel, hmem⟩ := ih h
        rcases List.mem_cons.mp hlabel with rfl | hlabel
        · exact ⟨_, List.mem_cons_self, List.mem_cons_of_mem _ hmem⟩
        · exact ⟨label, List.mem_cons_of_mem _ hlabel, hmem⟩

theorem labelsOf_map_toLower (cs : List Char) :
    labelsOf (cs.map Char.toLower) = (labelsOf cs).map (List.map Char.toLower) := by
  induction cs with
  | nil => rfl
  | cons c cs ih =>
    by_cases hc : c = '.'
    · subst hc
      rw [labelsOf_cons_dot, List.map_cons, List.map_cons, List.map_nil, ← ih]
      exact labelsOf_cons_dot _
    · have hlower : c.toLower ≠ '.' := by rwa [Ne, toLower_eq_iff (by decide)]
      obtain ⟨first, more, hlabels⟩ := List.exists_cons_of_ne_nil (labelsOf_ne_nil cs)
      rw [List.map_cons, labelsOf_cons hlower, ih, labelsOf_cons hc, hlabels]
      rfl

/-! ## The last labels -/

/-- The last two labels of a host, the last one first. -/
def lastTwo (host : List Char) : List (List Char) :=
  (labelsOf host).reverse.take 2

theorem lastTwo_map_toLower (cs : List Char) :
    lastTwo (cs.map Char.toLower) = (lastTwo cs).map (List.map Char.toLower) := by
  rw [lastTwo, labelsOf_map_toLower, ← List.map_reverse, ← List.map_take, lastTwo]

variable {site host : String}

theorem lastTwo_of_covers (h : Covers site host) (hsite : 2 ≤ (labelsOf site.toList).length) :
    lastTwo host.toList = lastTwo site.toList := by
  rcases h with rfl | ⟨before, hbefore⟩
  · rfl
  · have hlength : 2 ≤ (labelsOf site.toList).reverse.length := by
      rwa [List.length_reverse]
    rw [lastTwo, ← hbefore, labelsOf_append, List.reverse_append,
      List.take_append_of_le_length hlength, lastTwo]

/-- A site of one label is the last label of what it covers. -/
theorem getLast?_labelsOf_of_covers (h : Covers site host) (hdot : '.' ∉ site.toList) :
    (labelsOf host.toList).getLast? = some site.toList := by
  rcases h with rfl | ⟨before, hbefore⟩
  · rw [labelsOf_of_not_mem hdot]
    rfl
  · rw [← hbefore, labelsOf_append, labelsOf_of_not_mem hdot, List.getLast?_concat]

theorem dot_not_mem_of_length_lt {cs : List Char} (h : (labelsOf cs).length < 2) : '.' ∉ cs := by
  intro hmem
  obtain ⟨a, b, rfl⟩ := List.append_of_mem hmem
  have ha := List.length_pos_iff.mpr (labelsOf_ne_nil a)
  have hb := List.length_pos_iff.mpr (labelsOf_ne_nil b)
  rw [labelsOf_append, List.length_append] at h
  omega

/-! ## Hostnames -/

/-- The top-level part of a host covers it, and is its last label. -/
theorem Hostname.covers_top {letter : Char → Bool} (h : Hostname letter) :
    Covers (String.ofList h.top) (String.ofList h.chars) := by
  refine Or.inr ?_
  rw [String.toList_ofList, String.toList_ofList, chars]
  rcases dotted_cases h.labels with hnil | ⟨front, hfront⟩
  · obtain ⟨label, labels, hlabels⟩ := List.exists_cons_of_ne_nil h.labels_ne_nil
    rw [hlabels, dotted_cons] at hnil
    exact absurd hnil (List.append_ne_nil_of_right_ne_nil _ (List.cons_ne_nil _ _))
  · rw [hfront, List.append_assoc]
    exact ⟨front, rfl⟩

/-- A site of one label covers a host as its top-level part or not at all. -/
theorem Hostname.eq_top_of_covers {letter : Char → Bool} (h : Hostname letter)
    (hletter : letter '.' = false) (hcovers : Covers site (String.ofList h.chars))
    (hdot : '.' ∉ site.toList) : site.toList = h.top := by
  have htop : '.' ∉ (String.ofList h.top).toList := by
    rw [String.toList_ofList]
    intro hmem
    rw [h.isTopLevel.letters '.' hmem] at hletter
    cases hletter
  have hlast := getLast?_labelsOf_of_covers h.covers_top htop
  rw [getLast?_labelsOf_of_covers hcovers hdot, String.toList_ofList] at hlast
  exact Option.some.inj hlast

end GuildModeration.Link
