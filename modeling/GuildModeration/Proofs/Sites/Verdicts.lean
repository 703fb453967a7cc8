import GuildModeration.Proofs.Link.Suffixes
import GuildModeration.Rule.Sites

/-!
# The host that decides

The hosts that a message names are judged from left to right. A host is passed over if it is not
banned and nothing is known against it; the first that is not passed over decides, for a violation
or for the failure of its lookup. That is the answer to the message, and there is no other
(`judgeAll_eq_iff`). What decides on a single host is told without the search for a banned suffix
and without the order in which the list and the reputation are asked.
-/

namespace GuildModeration

open GuildModeration.Link

namespace SitesRule

variable {r : SitesRule} {reputation : Reputation} {host : String} {hosts rest : List String}
  {answer : RuleAnswer} {v : Violation}

/-! ## Banned hosts -/

/-- A banned host covers the host. -/
def IsBanned (r : SitesRule) (host : String) : Prop :=
  ∃ site ∈ r.bannedHosts, Covers site host

/-- The banned hosts are the bare hosts of the list that are not empty. -/
theorem mem_bannedHosts_compile_iff {site : String} :
    site ∈ r.compile.bannedHosts ↔
      site ≠ "" ∧ ∃ entry ∈ r.bannedWebsites, bareHost entry = site := by
  rw [compile, List.mem_filter, List.mem_map, and_comm]
  simp

theorem banned?_eq_some_iff {site : String} :
    r.banned? host = some site ↔ IsNearest r.bannedHosts host site :=
  find?_hostSuffixes_eq_some_iff

theorem banned?_eq_none_iff : r.banned? host = none ↔ ¬ r.IsBanned host := by
  rw [banned?, find?_hostSuffixes_eq_none_iff, IsBanned]
  simp only [not_exists, not_and]

theorem IsBanned.exists_nearest (h : r.IsBanned host) :
    ∃ site, IsNearest r.bannedHosts host site := by
  have hsome : r.banned? host ≠ none := fun hnone ↦ banned?_eq_none_iff.mp hnone h
  obtain ⟨site, hsite⟩ := Option.ne_none_iff_exists'.mp hsome
  exact ⟨site, banned?_eq_some_iff.mp hsite⟩

/-! ## One host -/

/-- The host is not banned, and the lookup, if there is one, finds nothing against it. -/
def Passes (r : SitesRule) (reputation : Reputation) (host : String) : Prop :=
  ¬ r.IsBanned host ∧ (r.asksReputation = true → reputation host = .ok false)

/-- What is answered on a host that is not passed over. A banned host is not looked up. -/
inductive Decides (r : SitesRule) (reputation : Reputation) (host : String) : RuleAnswer → Prop
  | banned {site : String} : IsNearest r.bannedHosts host site →
      Decides r reputation host
        (.ok (some (r.settings.violation s!"Sent a link to a banned website: `{site}`")))
  | flagged : ¬ r.IsBanned host → r.asksReputation = true → reputation host = .ok true →
      Decides r reputation host
        (.ok (some (r.settings.violation s!"Sent a link to a flagged website: `{host}`")))
  | failed {e : RuleError} : ¬ r.IsBanned host → r.asksReputation = true →
      reputation host = .error e → Decides r reputation host (.error e)

theorem judge_of_passes (h : r.Passes reputation host) : r.judge reputation host = .ok none := by
  obtain ⟨hbanned, hanswer⟩ := h
  rw [judge, banned?_eq_none_iff.mpr hbanned]
  dsimp only
  split
  · next hasks =>
    rw [hanswer hasks]
    rfl
  · rfl

theorem judge_of_decides (h : r.Decides reputation host answer) :
    r.judge reputation host = answer := by
  rw [judge]
  cases h with
  | banned hnearest => rw [banned?_eq_some_iff.mpr hnearest]
  | flagged hbanned hasks hanswer =>
    rw [banned?_eq_none_iff.mpr hbanned]
    dsimp only
    rw [if_pos hasks, hanswer]
    rfl
  | failed hbanned hasks hanswer =>
    rw [banned?_eq_none_iff.mpr hbanned]
    dsimp only
    rw [if_pos hasks, hanswer]
    rfl

theorem Decides.ne_ok_none (h : r.Decides reputation host answer) : answer ≠ .ok none := by
  rintro rfl
  cases h

theorem passes_or_decides (r : SitesRule) (reputation : Reputation) (host : String) :
    r.Passes reputation host ∨ ∃ answer, r.Decides reputation host answer := by
  by_cases hbanned : r.IsBanned host
  · obtain ⟨site, hsite⟩ := hbanned.exists_nearest
    exact Or.inr ⟨_, .banned hsite⟩
  · by_cases hasks : r.asksReputation = true
    · rcases hanswer : reputation host with e | _ | _
      · exact Or.inr ⟨_, .failed hbanned hasks hanswer⟩
      · exact Or.inl ⟨hbanned, fun _ ↦ hanswer⟩
      · exact Or.inr ⟨_, .flagged hbanned hasks hanswer⟩
    · exact Or.inl ⟨hbanned, fun htrue ↦ absurd htrue hasks⟩

theorem decides_of_judge (h : r.judge reputation host = .ok (some v)) :
    r.Decides reputation host (.ok (some v)) := by
  rcases passes_or_decides r reputation host with hpasses | ⟨answer, hdecides⟩
  · rw [judge_of_passes hpasses] at h
    cases h
  · rwa [← h, judge_of_decides hdecides]

/-- The rule asks for one severity. -/
theorem severity_of_judge (h : r.judge reputation host = .ok (some v)) :
    v.severity = r.settings.punishment := by
  cases decides_of_judge h with
  | banned => rfl
  | flagged => rfl

/-! ## All hosts -/

theorem judgeAll_cons_of_passes (h : r.Passes reputation host) :
    r.judgeAll reputation (host :: rest) = r.judgeAll reputation rest := by
  rw [judgeAll, judge_of_passes h]

theorem judgeAll_cons_of_decides (h : r.Decides reputation host answer) :
    r.judgeAll reputation (host :: rest) = answer := by
  rw [judgeAll, judge_of_decides h]
  split
  · next hnone => exact absurd rfl h.ne_ok_none
  · rfl

theorem judgeAll_append_of_passes {before : List String}
    (h : ∀ earlier ∈ before, r.Passes reputation earlier) :
    r.judgeAll reputation (before ++ rest) = r.judgeAll reputation rest := by
  induction before with
  | nil => rfl
  | cons first before ih =>
    obtain ⟨hfirst, hbefore⟩ := List.forall_mem_cons.mp h
    rw [List.cons_append, judgeAll_cons_of_passes hfirst, ih hbefore]

/-- The answer is that all hosts are passed over, or that of the first host that is not. -/
def IsVerdict (r : SitesRule) (reputation : Reputation) (hosts : List String)
    (answer : RuleAnswer) : Prop :=
  (answer = .ok none ∧ ∀ host ∈ hosts, r.Passes reputation host) ∨
    ∃ before host after, hosts = before ++ host :: after ∧
      (∀ earlier ∈ before, r.Passes reputation earlier) ∧ r.Decides reputation host answer

theorem isVerdict_judgeAll (r : SitesRule) (reputation : Reputation) (hosts : List String) :
    r.IsVerdict reputation hosts (r.judgeAll reputation hosts) := by
  induction hosts with
  | nil => exact Or.inl ⟨rfl, fun _ hmem ↦ absurd hmem List.not_mem_nil⟩
  | cons first rest ih =>
    rcases passes_or_decides r reputation first with hpasses | ⟨answer, hdecides⟩
    · rw [judgeAll_cons_of_passes hpasses]
      rcases ih with ⟨hclean, hall⟩ | ⟨before, host, after, rfl, hbefore, hdecides⟩
      · exact Or.inl ⟨hclean, List.forall_mem_cons.mpr ⟨hpasses, hall⟩⟩
      · refine Or.inr ⟨first :: before, host, after, rfl, ?_, hdecides⟩
        exact List.forall_mem_cons.mpr ⟨hpasses, hbefore⟩
    · rw [judgeAll_cons_of_decides hdecides]
      exact Or.inr ⟨[], first, rest, rfl, fun _ hmem ↦ absurd hmem List.not_mem_nil, hdecides⟩

/-- The verdict of the first host that decides, and nothing else, is the answer. -/
theorem judgeAll_eq_iff :
    r.judgeAll reputation hosts = answer ↔ r.IsVerdict reputation hosts answer := by
  constructor
  · rintro rfl
    exact isVerdict_judgeAll r reputation hosts
  · rintro (⟨rfl, hall⟩ | ⟨before, host, after, rfl, hbefore, hdecides⟩)
    · rw [← List.append_nil hosts, judgeAll_append_of_passes hall]
      rfl
    · rw [judgeAll_append_of_passes hbefore, judgeAll_cons_of_decides hdecides]

/-- A violation is the verdict on some host. -/
theorem exists_judge_of_judgeAll (h : r.judgeAll reputation hosts = .ok (some v)) :
    ∃ host ∈ hosts, r.judge reputation host = .ok (some v) := by
  rcases judgeAll_eq_iff.mp h with ⟨hnone, -⟩ | ⟨before, host, after, rfl, -, hdecides⟩
  · cases hnone
  · exact ⟨host, List.mem_append_right _ List.mem_cons_self, judge_of_decides hdecides⟩

/-- A source that tells the same of the hosts that are not banned makes no difference. -/
theorem judgeAll_eq_of_not_banned {reputation' : Reputation}
    (h : ∀ host ∈ hosts, ¬ r.IsBanned host → reputation' host = reputation host) :
    r.judgeAll reputation' hosts = r.judgeAll reputation hosts := by
  induction hosts with
  | nil => rfl
  | cons first rest ih =>
    obtain ⟨hfirst, hrest⟩ := List.forall_mem_cons.mp h
    have hjudge : r.judge reputation' first = r.judge reputation first := by
      by_cases hbanned : r.IsBanned first
      · obtain ⟨site, hsite⟩ := hbanned.exists_nearest
        rw [judge_of_decides (.banned hsite), judge_of_decides (.banned hsite)]
      · rw [judge, hfirst hbanned, judge]
    rw [judgeAll, hjudge, ih hrest, judgeAll]

/-- Whatever hosts are banned, whatever the message says and whoever is asked for the reputation of
hosts. A message is clean if every host that it names is passed over; else the first host that is
not decides, with the longest banned host that covers it, with its own name if it is flagged, or
with the failure of its lookup. What is known of banned hosts is never asked for. -/
theorem check_eq_iff_isVerdict (r : SitesRule) (m : Message) (state : RuleState) :
    (∀ answer, r.check m state = answer ↔
      r.IsVerdict state.reputation (namedHosts m.content) answer) ∧
    ∀ reputation : Reputation,
      (∀ host ∈ namedHosts m.content,
        ¬ r.IsBanned host → reputation host = state.reputation host) →
          r.check m { state with reputation } = r.check m state :=
  ⟨fun _ ↦ judgeAll_eq_iff, fun _ ↦ judgeAll_eq_of_not_banned⟩

end SitesRule

end GuildModeration
