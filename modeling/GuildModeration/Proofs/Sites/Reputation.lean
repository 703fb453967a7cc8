import GuildModeration.Proofs.Sites.Verdicts

/-!
# What asking for reputation adds

A message is a violation if it names an offending host in front of which no lookup fails
(`exists_judgeAll_iff`). Without lookups that is any banned host. With them there are the flagged
hosts besides, but a lookup that fails ends the check where it stands, and a banned host further on
is not reached. So a rule that is told to ask finds no less in a message exactly if the message
names no banned host, or an offending one comes before the first failure (`onlyAdds_iff`).
-/

namespace GuildModeration

open GuildModeration.Link

namespace SitesRule

variable {r : SitesRule} {reputation : Reputation} {host : String} {hosts : List String}

/-! ## Offences and failures -/

/-- The host is banned, or it is looked up and flagged. -/
def Offends (r : SitesRule) (reputation : Reputation) (host : String) : Prop :=
  r.IsBanned host ∨ r.asksReputation = true ∧ reputation host = .ok true

/-- The host is looked up in vain. -/
def LookupFails (r : SitesRule) (reputation : Reputation) (host : String) : Prop :=
  ¬ r.IsBanned host ∧ r.asksReputation = true ∧ ∃ e, reputation host = .error e

theorem Passes.not_lookupFails (h : r.Passes reputation host) :
    ¬ r.LookupFails reputation host := by
  rintro ⟨-, hasks, e, hfails⟩
  have hanswer := h.2 hasks
  rw [hfails] at hanswer
  cases hanswer

theorem Decides.offends {v : Violation} (h : r.Decides reputation host (.ok (some v))) :
    r.Offends reputation host := by
  cases h with
  | banned hnearest => exact Or.inl ⟨_, hnearest.mem, hnearest.covers⟩
  | flagged _ hasks hflagged => exact Or.inr ⟨hasks, hflagged⟩

theorem Offends.exists_decides (h : r.Offends reputation host) :
    ∃ v, r.Decides reputation host (.ok (some v)) := by
  by_cases hbanned : r.IsBanned host
  · obtain ⟨site, hsite⟩ := hbanned.exists_nearest
    exact ⟨_, .banned hsite⟩
  · obtain ⟨hasks, hflagged⟩ := h.resolve_left hbanned
    exact ⟨_, .flagged hbanned hasks hflagged⟩

/-- A host whose lookup does not fail is passed over or decides for a violation. -/
theorem passes_or_offends (h : ¬ r.LookupFails reputation host) :
    r.Passes reputation host ∨ r.Offends reputation host := by
  rcases passes_or_decides r reputation host with hpasses | ⟨answer, hdecides⟩
  · exact Or.inl hpasses
  · cases hdecides with
    | banned hnearest => exact Or.inr (Or.inl ⟨_, hnearest.mem, hnearest.covers⟩)
    | flagged _ hasks hflagged => exact Or.inr (Or.inr ⟨hasks, hflagged⟩)
    | failed hbanned hasks hfails => exact absurd ⟨hbanned, hasks, _, hfails⟩ h

/-! ## Violations -/

/-- Some host offends, and no lookup fails in front of it. -/
def Reaches (r : SitesRule) (reputation : Reputation) (hosts : List String) : Prop :=
  ∃ before host after, hosts = before ++ host :: after ∧
    (∀ earlier ∈ before, ¬ r.LookupFails reputation earlier) ∧ r.Offends reputation host

theorem Reaches.exists_judgeAll (h : r.Reaches reputation hosts) :
    ∃ v, r.judgeAll reputation hosts = .ok (some v) := by
  obtain ⟨before, host, after, rfl, hbefore, hhost⟩ := h
  induction before with
  | nil =>
    obtain ⟨v, hv⟩ := hhost.exists_decides
    exact ⟨v, judgeAll_cons_of_decides hv⟩
  | cons first before ih =>
    obtain ⟨hfirst, hbefore⟩ := List.forall_mem_cons.mp hbefore
    rcases passes_or_offends hfirst with hpasses | hoffends
    · rw [List.cons_append, judgeAll_cons_of_passes hpasses]
      exact ih hbefore
    · obtain ⟨v, hv⟩ := hoffends.exists_decides
      exact ⟨v, judgeAll_cons_of_decides hv⟩

/-- What makes a message a violation. -/
theorem exists_judgeAll_iff :
    (∃ v, r.judgeAll reputation hosts = .ok (some v)) ↔ r.Reaches reputation hosts := by
  constructor
  · rintro ⟨v, hv⟩
    rcases judgeAll_eq_iff.mp hv with ⟨hnone, -⟩ | ⟨before, host, after, hhosts, hbefore, hdecides⟩
    · cases hnone
    · refine ⟨before, host, after, hhosts, ?_, hdecides.offends⟩
      exact fun earlier hearlier ↦ (hbefore earlier hearlier).not_lookupFails
  · exact Reaches.exists_judgeAll

/-- Without lookups, what makes a message a violation is any banned host. -/
theorem reaches_iff_of_not_asks (h : r.asksReputation = false) :
    r.Reaches reputation hosts ↔ ∃ host ∈ hosts, r.IsBanned host := by
  constructor
  · rintro ⟨before, host, after, rfl, -, hhost⟩
    rcases hhost with hbanned | ⟨hasks, -⟩
    · exact ⟨host, List.mem_append_right _ List.mem_cons_self, hbanned⟩
    · rw [h] at hasks
      cases hasks
  · rintro ⟨host, hmem, hbanned⟩
    obtain ⟨before, after, hhosts⟩ := List.append_of_mem hmem
    refine ⟨before, host, after, hhosts, ?_, Or.inl hbanned⟩
    rintro earlier - ⟨-, hasks, -⟩
    rw [h] at hasks
    cases hasks

/-! ## With lookups and without -/

/-- The rule with the lookups of reputation switched on or off. -/
def asking (r : SitesRule) (asks : Bool) : SitesRule :=
  { r with asksReputation := asks }

/-- If the message is a violation without lookups, it is one with them. -/
def OnlyAdds (r : SitesRule) (m : Message) (state : RuleState) : Prop :=
  (∃ v, (r.asking false).check m state = .ok (some v)) →
    ∃ v, (r.asking true).check m state = .ok (some v)

theorem offends_asking_iff :
    (r.asking true).Offends reputation host ↔ r.IsBanned host ∨ reputation host = .ok true :=
  or_congr Iff.rfl (and_iff_right rfl)

theorem not_lookupFails_asking_iff :
    ¬ (r.asking true).LookupFails reputation host ↔
      r.IsBanned host ∨ ∃ flagged, reputation host = .ok flagged := by
  rcases hanswer : reputation host with e | flagged
  · have hfails : (r.asking true).LookupFails reputation host ↔ ¬ r.IsBanned host :=
      and_iff_left ⟨rfl, e, hanswer⟩
    simp [hfails]
  · have hfails : ¬ (r.asking true).LookupFails reputation host := by
      rintro ⟨-, -, e, he⟩
      rw [hanswer] at he
      cases he
    simp [hfails]

/-- Lookups only add violations exactly if the message names no banned host, or names a banned or
flagged one before the first host that is not banned and whose lookup fails. -/
theorem onlyAdds_iff {m : Message} {state : RuleState} :
    r.OnlyAdds m state ↔
      ((∃ host ∈ namedHosts m.content, r.IsBanned host) →
        ∃ before host after, namedHosts m.content = before ++ host :: after ∧
          (∀ earlier ∈ before,
            r.IsBanned earlier ∨ ∃ flagged, state.reputation earlier = .ok flagged) ∧
          (r.IsBanned host ∨ state.reputation host = .ok true)) := by
  have hwithout : (∃ v, (r.asking false).check m state = .ok (some v)) ↔
      ∃ host ∈ namedHosts m.content, r.IsBanned host :=
    exists_judgeAll_iff.trans (reaches_iff_of_not_asks rfl)
  have hwith : (∃ v, (r.asking true).check m state = .ok (some v)) ↔
      (r.asking true).Reaches state.reputation (namedHosts m.content) :=
    exists_judgeAll_iff
  rw [OnlyAdds, hwithout, hwith, Reaches]
  simp only [not_lookupFails_asking_iff, offends_asking_iff]

/-- The lookup of the first host fails, and the banned one behind it is not reached. -/
theorem not_onlyAdds_behind_failure :
    let r : SitesRule := { settings := .enabledWith .ban 10, bannedWebsites := ["bad.example"] }
    let m : Message := { content := "first.example bad.example" }
    let state : RuleState :=
      { reputation := (FlaggedHosts.reputation {}).failingFor ["first.example"] "stale" }
    (r.compile.asking false).check m state =
        .ok (some ⟨.ban, "Sent a link to a banned website: `bad.example`"⟩) ∧
      (r.compile.asking true).check m state =
        .error (.lookupFailed "first.example" "stale") ∧
      ¬ r.compile.OnlyAdds m state := by
  intro r m state
  have hwithout : (r.compile.asking false).check m state =
      .ok (some ⟨.ban, "Sent a link to a banned website: `bad.example`"⟩) := by
    decide +kernel
  have hwith : (r.compile.asking true).check m state =
      .error (.lookupFailed "first.example" "stale") := by
    decide +kernel
  refine ⟨hwithout, hwith, fun honly ↦ ?_⟩
  obtain ⟨v, hv⟩ := honly ⟨_, hwithout⟩
  rw [hwith] at hv
  cases hv

end SitesRule

end GuildModeration
