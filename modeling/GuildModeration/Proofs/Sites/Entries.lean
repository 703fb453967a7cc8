import GuildModeration.Proofs.Sites.Reputation

/-!
# Addresses that block themselves

An entry of the list is brought to its bare host, and a message that is nothing but the entry is
searched for hosts. The two readings are made separately, and both know the scheme of an address by
its mark: one cuts off all in front of the first `://`, the other passes over a scheme where it
finds one. Up to the first mark the search may find what it likes, but it gets across the mark only
by passing over it, so that it begins afresh right behind it (`mem_rawHosts_of_afterMark?`). So the
entry is found in the message if what stands behind its scheme is a hostname. What is no hostname,
such as a single label, is no host for the search.
-/

namespace GuildModeration

open GuildModeration.Text GuildModeration.Link

namespace Link

/-! ## Behind the first mark -/

theorem afterMark?_of_afterScheme? {cs rest : List Char} (h : afterScheme? cs = some rest) :
    afterMark? cs = some rest := by
  obtain ⟨scheme, rfl, hscheme⟩ := exists_of_afterScheme? h
  refine afterMark?_mark (fun hmem ↦ ?_) rest
  have hcolon := hscheme ':' hmem
  revert hcolon
  decide

/-- No host begins with a slash. -/
theorem rawHosts_cons_slash (cs : List Char) : rawHosts ('/' :: cs) = rawHosts cs := by
  have hscheme : afterScheme? ('/' :: cs) = none := by
    rw [afterScheme?_cons]
    exact if_neg (by decide)
  have hlabel : label? ('/' :: cs) = none := by
    apply label?_of_not_dot
    rw [List.dropWhile_cons_of_neg (by decide)]
    simp
  apply rawHosts_of_none
  rw [address?, hscheme, Option.bind_none, Option.none_or, host?, hlabel, Option.bind_none]

/-- The host at the first mark of a text is found, whatever stands before the mark. -/
theorem mem_rawHosts_of_afterMark? {cs target found after : List Char}
    (hmark : afterMark? cs = some target) (hhost : host? target = some (found, after))
    (hscheme : afterScheme? target = none) : found ∈ rawHosts cs := by
  fun_induction rawHosts cs with
  | case1 => cases hmark
  | case2 c cs host rest hfound _ ih =>
    rw [address?, Option.or_eq_some_iff] at hfound
    rcases hfound with hfound | ⟨-, hfound⟩
    · -- the scheme that is passed over ends with the first mark
      obtain ⟨rest', hrest, hread⟩ := Option.bind_eq_some_iff.mp hfound
      rw [afterMark?_of_afterScheme? hrest, Option.some_inj] at hmark
      rw [hmark, hhost, Option.some_inj, Prod.mk.injEq] at hread
      rw [hread.1]
      exact List.mem_cons_self
    · -- the host that is read ends before the first mark
      obtain ⟨host, rfl, -, htext⟩ := exists_of_host? hfound
      have hcolon : ':' ∉ host.chars :=
        colon_not_mem fun d hd ↦ isTypedChar_of_isHostChar (host.isHostChar d hd)
      rw [htext, afterMark?_append hcolon] at hmark
      exact List.mem_cons_of_mem _ (ih hmark)
  | case3 c cs hnone ih =>
    by_cases hfront : ∃ rest, c = ':' ∧ cs = '/' :: '/' :: rest
    · obtain ⟨rest, rfl, rfl⟩ := hfront
      obtain rfl : rest = target := Option.some.inj hmark
      rw [rawHosts_cons_slash, rawHosts_cons_slash]
      have hread : address? rest = some (found, after) := by
        rw [address?, hscheme, Option.bind_none, Option.none_or, hhost]
      exact mem_rawHosts_of_address? hread
    · rw [afterMark?.eq_3 c cs fun rest hc hcs ↦ hfront ⟨rest, hc, hcs⟩] at hmark
      exact ih hmark

/-! ## Entries -/

/-- Without the blanks around it and all in front of its first `://`, the address is a hostname, and
what is behind that begins like a port, a path, a query or a fragment, but not with another
`://`. -/
def IsHostAddress (address : String) : Prop :=
  ∃ (host : Hostname isLatin) (rest : List Char),
    withoutScheme (trimChars address.toList) = host.chars ++ rest ∧
      (∀ c ∈ rest.head?, endsHost c = true) ∧ ¬ schemeMark <+: rest

theorem not_isSchemeChar_of_endsHost {c : Char} (h : endsHost c = true) :
    isSchemeChar c = false := by
  have hall : hostEnds.any isSchemeChar = false := by decide
  exact Bool.eq_false_iff.mpr (List.any_eq_false.mp hall c (endsHost_iff.mp h))

theorem closesHost_of_endsHost {rest : List Char} (h : ∀ c ∈ rest.head?, endsHost c = true) :
    ClosesHost rest := by
  have hall : hostEnds.all (fun c ↦ isWordChar c = false ∧ c ≠ '.' ∧ c ≠ '-') = true := by
    decide +kernel
  exact fun c hc ↦ of_decide_eq_true (List.all_eq_true.mp hall c (endsHost_iff.mp (h c hc)))

/-- What is found without the blanks at both ends is found with them. -/
theorem mem_rawHosts_of_trimChars {cs found : List Char} (h : found ∈ rawHosts (trimChars cs)) :
    found ∈ rawHosts cs := by
  obtain ⟨before, after, hbefore, hafter, hcs⟩ := exists_eq_trimChars cs
  have hopens : OpensAddress before := fun c hc ↦ hbefore c (List.mem_of_getLast? hc)
  rw [hcs, rawHosts_append_of_opensAddress hopens]
  apply List.mem_append_right
  cases after with
  | nil => rwa [List.append_nil]
  | cons s after =>
    rw [rawHosts_append_cons (hafter s List.mem_cons_self)]
    exact List.mem_append_left _ h

/-- The host of such an address is found in a message that is nothing but the address, and is the
one that the bare host is made of. -/
theorem exists_of_isHostAddress {address : String} (h : IsHostAddress address) :
    ∃ host : Hostname isLatin, host.chars ∈ rawHosts address.toList ∧
      bareHost address = String.ofList (withoutWww (lowerChars host.chars)) := by
  obtain ⟨host, rest, htyped, hrest, hnomark⟩ := h
  refine ⟨host, mem_rawHosts_of_trimChars ?_, ?_⟩
  · have hread := host?_append host (closesHost_of_endsHost hrest)
    have hscheme := afterScheme?_host host
      (fun c hc ↦ not_isSchemeChar_of_endsHost (hrest c hc)) hnomark
    rw [withoutScheme_eq] at htyped
    cases hmark : afterMark? (trimChars address.toList) with
    | some target =>
      rw [hmark, Option.getD_some] at htyped
      subst htyped
      exact mem_rawHosts_of_afterMark? hmark hread hscheme
    | none =>
      rw [hmark, Option.getD_none] at htyped
      have haddress : address? (host.chars ++ rest) = some (host.chars, rest) := by
        rw [address?, hscheme, Option.bind_none, Option.none_or, hread]
      rw [htyped]
      exact mem_rawHosts_of_address? haddress
  · have hchars : ∀ c ∈ host.chars, isTypedChar c = true :=
      fun c hc ↦ isTypedChar_of_isHostChar (host.isHostChar c hc)
    rw [bareHost, bareHostChars_eq, htyped, takeWhile_lowerChars hchars hrest]

end Link

namespace SitesRule

/-- Whatever else is on the list, as long as no reputation is asked for, a message that is nothing
but the entry is a violation. -/
def FindsItself (entry : String) : Prop :=
  ∀ (r : SitesRule) (m : Message) (state : RuleState), entry ∈ r.bannedWebsites →
    r.asksReputation = false → m.content = entry → ∃ v, r.compile.check m state = .ok (some v)

/-- An entry finds itself exactly if its bare host covers one of the hosts that are found in it. -/
theorem findsItself_iff_covers {entry : String} (h : bareHost entry ≠ "") :
    FindsItself entry ↔ ∃ host ∈ namedHosts entry, Covers (bareHost entry) host := by
  have hcheck : ∀ (r : SitesRule) (m : Message) (state : RuleState), r.asksReputation = false →
      ((∃ v, r.compile.check m state = .ok (some v)) ↔
        ∃ host ∈ namedHosts m.content, r.compile.IsBanned host) :=
    fun r m state hasks ↦ exists_judgeAll_iff.trans (reaches_iff_of_not_asks hasks)
  constructor
  · intro hfinds
    obtain ⟨host, hhost, site, hsite, hcovers⟩ :=
      (hcheck { bannedWebsites := [entry] } { content := entry } {} rfl).mp
        (hfinds _ _ _ (List.mem_singleton_self entry) rfl rfl)
    obtain ⟨-, listed, hlisted, rfl⟩ := mem_bannedHosts_compile_iff.mp hsite
    rw [List.mem_singleton.mp hlisted] at hcovers
    exact ⟨host, hhost, hcovers⟩
  · rintro ⟨host, hhost, hcovers⟩ r m state hmem hasks rfl
    exact (hcheck r m state hasks).mpr
      ⟨host, hhost, _, mem_bannedHosts_compile_iff.mpr ⟨h, _, hmem, rfl⟩, hcovers⟩

/-- An address of a hostname finds itself, and every other entry finds itself exactly if its bare
host covers one of the hosts that are found in it. -/
theorem findsItself_of_isHostAddress {entry : String} (h : bareHost entry ≠ "") :
    (FindsItself entry ↔ ∃ host ∈ namedHosts entry, Covers (bareHost entry) host) ∧
      (IsHostAddress entry → FindsItself entry) := by
  refine ⟨findsItself_iff_covers h, fun haddress ↦ ?_⟩
  obtain ⟨host, hmem, hbare⟩ := exists_of_isHostAddress haddress
  refine (findsItself_iff_covers h).mpr ⟨bareHost entry, ?_, .inl rfl⟩
  refine List.mem_map.mpr ⟨_, List.mem_map.mpr ⟨_, hmem, rfl⟩, ?_⟩
  rw [String.toList_ofList, hbare]

/-- A whole address with blanks around it, of any scheme and in any case. -/
theorem findsItself_whole_address :
    let entry := " SFTP://www.Bad-Site.Example:8080/x?to=y://z "
    bareHost entry ≠ "" ∧ IsHostAddress entry ∧ FindsItself entry := by
  intro entry
  have hne : bareHost entry ≠ "" := by decide +kernel
  have haddress : IsHostAddress entry := by
    let host : Hostname isLatin :=
      { labels := ["www".toList, "Bad-Site".toList], top := "Example".toList,
        labels_ne_nil := by decide, isLabel := by decide, isTopLevel := by decide }
    refine ⟨host, ':' :: "8080/x?to=y://z".toList, by decide +kernel, ?_, by decide⟩
    rintro c ⟨rfl⟩
    decide
  exact ⟨hne, haddress, (findsItself_of_isHostAddress hne).2 haddress⟩

/-- A single label is a bare host, but no host that is found. -/
theorem not_findsItself_single_label :
    let r : SitesRule := { settings := .enabledWith .ban 10, bannedWebsites := ["localhost"] }
    bareHost "localhost" = "localhost" ∧ r.compile.check { content := "localhost" } {} = .ok none ∧
      ¬ FindsItself "localhost" := by
  intro r
  have hcheck : r.compile.check { content := "localhost" } {} = .ok none := by decide +kernel
  refine ⟨by decide +kernel, hcheck, fun hfinds ↦ ?_⟩
  obtain ⟨v, hv⟩ := hfinds r { content := "localhost" } {} (List.mem_singleton_self _) rfl rfl
  rw [hcheck] at hv
  cases hv

end SitesRule

end GuildModeration
