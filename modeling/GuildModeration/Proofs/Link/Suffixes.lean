import GuildModeration.Proofs.Link.Address

/-!
# Sites that cover a host

A listed site covers a host that is the site itself or lies below it. What covers a host are its
suffixes at the dots (`mem_hostSuffixes_iff`), and of these each is shorter than those before it. So
the first suffix that is listed is the longest listed site that covers the host, and no other is as
long (`find?_hostSuffixes_eq_some_iff`).
-/

namespace GuildModeration.Link

variable {site host : String} {sites : List String}

/-! ## Covering -/

/-- The host is the site, or ends with a dot and the site. -/
def Covers (site host : String) : Prop :=
  host = site ∨ '.' :: site.toList <:+ host.toList

instance (site host : String) : Decidable (Covers site host) :=
  inferInstanceAs (Decidable (_ ∨ _))

/-- The suffixes of a host are what covers it. -/
theorem mem_hostSuffixes_iff : site ∈ hostSuffixes host ↔ Covers site host := by
  have hdots : site ∈ (afterDots host.toList).map String.ofList ↔
      '.' :: site.toList <:+ host.toList := by
    constructor
    · intro h
      obtain ⟨part, hpart, rfl⟩ := List.mem_map.mp h
      obtain ⟨before, hbefore⟩ := mem_afterDots_iff.mp hpart
      rw [String.toList_ofList]
      exact ⟨before, hbefore.symm⟩
    · rintro ⟨before, hbefore⟩
      refine List.mem_map.mpr ⟨site.toList, ?_, String.ofList_toList⟩
      exact mem_afterDots_iff.mpr ⟨before, hbefore.symm⟩
  rw [hostSuffixes, List.mem_cons, hdots, Covers, eq_comm]

theorem Covers.suffix (h : Covers site host) : site.toList <:+ host.toList := by
  rcases h with rfl | h
  · exact List.suffix_rfl
  · exact (List.suffix_cons _ _).trans h

theorem Covers.trans {middle : String} (h : Covers site middle) (h' : Covers middle host) :
    Covers site host := by
  rcases h with rfl | h
  · exact h'
  · exact Or.inr (h.trans h'.suffix)

/-- A host without `www.` covers the host. -/
theorem covers_withoutWww (cs : List Char) :
    Covers (String.ofList (withoutWww cs)) (String.ofList cs) := by
  rcases withoutWww_cases cs with ⟨rest, rfl, hrest⟩ | hsame
  · rw [hrest]
    refine Or.inr ?_
    rw [String.toList_ofList, String.toList_ofList]
    exact ⟨"www".toList, rfl⟩
  · rw [hsame]
    exact Or.inl rfl

/-- Sites of one length that cover a host are the same. -/
theorem Covers.eq_of_length {site' : String} (h : Covers site host) (h' : Covers site' host)
    (hlength : site.length = site'.length) : site = site' := by
  rw [← String.length_toList, ← String.length_toList] at hlength
  have hsuffix := List.suffix_of_suffix_length_le h.suffix h'.suffix hlength.le
  exact String.toList_inj.mp (hsuffix.eq_of_length hlength)

/-! ## The longest site -/

/-- The longest of the sites that cover a host. -/
structure IsNearest (sites : List String) (host site : String) : Prop where
  mem : site ∈ sites
  covers : Covers site host
  longest : ∀ other ∈ sites, Covers other host → other.length ≤ site.length

theorem IsNearest.unique {site' : String} (h : IsNearest sites host site)
    (h' : IsNearest sites host site') : site = site' := by
  apply h.covers.eq_of_length h'.covers
  exact Nat.le_antisymm (h'.longest site h.mem h.covers) (h.longest site' h'.mem h'.covers)

theorem length_lt_of_mem_afterDots {cs part : List Char} (h : part ∈ afterDots cs) :
    part.length < cs.length := by
  obtain ⟨before, rfl⟩ := mem_afterDots_iff.mp h
  rw [List.length_append, List.length_cons]
  omega

theorem pairwise_afterDots (cs : List Char) :
    (afterDots cs).Pairwise fun a b ↦ b.length < a.length := by
  fun_induction afterDots cs with
  | case1 => exact .nil
  | case2 rest ih => exact .cons (fun _ ↦ length_lt_of_mem_afterDots) ih
  | case3 c rest _ ih => exact ih

/-- The suffixes of a host get shorter and shorter. -/
theorem pairwise_hostSuffixes (host : String) :
    (hostSuffixes host).Pairwise fun a b ↦ b.length < a.length := by
  refine .cons ?_ ?_
  · intro part hpart
    obtain ⟨cs, hcs, rfl⟩ := List.mem_map.mp hpart
    rw [String.length_ofList, ← String.length_toList]
    exact length_lt_of_mem_afterDots hcs
  · refine List.pairwise_map.mpr ((pairwise_afterDots host.toList).imp fun h ↦ ?_)
    rwa [String.length_ofList, String.length_ofList]

theorem find?_hostSuffixes_eq_none_iff :
    (hostSuffixes host).find? sites.contains = none ↔ ∀ site ∈ sites, ¬ Covers site host := by
  simp only [List.find?_eq_none, mem_hostSuffixes_iff, List.contains_iff_mem]
  exact ⟨fun h site hsite hcovers ↦ h site hcovers hsite,
    fun h site hcovers hsite ↦ h site hsite hcovers⟩

theorem isNearest_of_find? (h : (hostSuffixes host).find? sites.contains = some site) :
    IsNearest sites host site := by
  obtain ⟨hmem, before, after, hsuffixes, hbefore⟩ := List.find?_eq_some_iff_append.mp h
  have hshorter : ∀ part ∈ after, part.length < site.length := by
    have hpairwise := pairwise_hostSuffixes host
    rw [hsuffixes, List.pairwise_append] at hpairwise
    exact (List.pairwise_cons.mp hpairwise.2.1).1
  refine ⟨List.contains_iff_mem.mp hmem, ?_, fun other hother hcovers ↦ ?_⟩
  · exact mem_hostSuffixes_iff.mp (List.mem_of_find?_eq_some h)
  · rw [← mem_hostSuffixes_iff, hsuffixes, List.mem_append, List.mem_cons] at hcovers
    rcases hcovers with hearlier | rfl | hlater
    · have hmissed := hbefore other hearlier
      rw [List.contains_iff_mem.mpr hother] at hmissed
      cases hmissed
    · exact Nat.le_refl _
    · exact (hshorter other hlater).le

/-- The first suffix that is listed is the longest listed site that covers the host. -/
theorem find?_hostSuffixes_eq_some_iff :
    (hostSuffixes host).find? sites.contains = some site ↔ IsNearest sites host site := by
  constructor
  · exact isNearest_of_find?
  · intro h
    cases hfound : (hostSuffixes host).find? sites.contains with
    | none => exact absurd h.covers (find?_hostSuffixes_eq_none_iff.mp hfound site h.mem)
    | some found => rw [(isNearest_of_find? hfound).unique h]

end GuildModeration.Link
