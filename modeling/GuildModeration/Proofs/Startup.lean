import GuildModeration.Proofs.Cache.Clock
import GuildModeration.Proofs.Cache.MaintainedRun
import GuildModeration.Startup

/-!
# Settings that break the program down

Two of the limits among the settings are made up for: a cache without room has room for one policy,
and no time between two passes of the maintenance counts as a second. The other two are not. The
queue of requests cannot be made without room or with more room than there can be, and a policy
cannot be put into the cache if the moment at which it expires is none of the clock. So a program
breaks down with some settings, at its start or by a lookup after it, and it never does with all
others (`Settings.neverBreaksDown_iff`). It does not start at all, and so cannot break down, if the
directory of the policies is no pattern.
-/

namespace GuildModeration

open GuildModeration.Files

namespace DirectoryStore

theorem knownGuilds_of_parse {d : DirectoryStore} {p : PathPattern}
    (h : PathPattern.parse? (joinPath d.dir "*.yaml") = some p) :
    ∃ guilds, d.knownGuilds = .ok guilds := by
  rw [knownGuilds, h]
  exact ⟨_, rfl⟩

theorem knownGuilds_of_parse_none {d : DirectoryStore}
    (h : PathPattern.parse? (joinPath d.dir "*.yaml") = none) :
    d.knownGuilds = .error .badPattern := by
  rw [knownGuilds, h]

end DirectoryStore

/-- The cache of a program that has just started, before anything has happened to it. -/
def Program.asRun (p : Program) (now : Nat) : CacheRun :=
  { now, shared := p.cache.shared }

/-- The program, started with these settings, does not break down as long as the clock does not pass
`horizon`: not at its start, whatever documents there are, and not by a lookup of the cache at any
time after it, whatever the store answers and whatever else happens to the cache. -/
structure Settings.NeverBreaksDown (s : Settings) (horizon : Nat) : Prop where
  starts : ∀ token files now text, now ≤ horizon →
    (Startup.ofSettings s token files now).1 ≠ .crashed text
  /-- Nor does it break down when it finds these settings itself. -/
  loads : ∀ files env log now text, now ≤ horizon → Settings.load files env = .ok (s, log) →
    (Startup.run files env now).1 ≠ .crashed text
  /-- The task of the maintenance is at work. -/
  maintains : ∀ token files now p, (Startup.ofSettings s token files now).1 = .started p →
    p.cache.hasEnded? = some false
  answers : ∀ token files now p actions, (Startup.ofSettings s token files now).1 = .started p →
    ((p.asRun now).run actions).now ≤ horizon → (p.asRun now).survives actions = true

namespace Startup

variable {s : Settings} {files : Tree} {token : String} {guilds : List GuildId} {now : Nat}
  {cache : ConfigCache}

/-! ## Steps of the start -/

theorem queueBreakdown?_eq_none_iff {capacity : Nat} :
    queueBreakdown? capacity = none ↔ 0 < capacity ∧ capacity ≤ maxBuffer := by
  rw [queueBreakdown?]
  split
  · next h => simp [h]
  · next h =>
    split
    · next hlarge => simp [Nat.not_le_of_lt hlarge]
    · next hsmall => simp [Nat.pos_of_ne_zero h, Nat.le_of_not_lt hsmall]

theorem preload_ttl {store : DirectoryStore} {log : List Log.Event}
    (h : preload s store guilds now = .ok (cache, log)) : cache.ttl = s.cacheTtlMs := by
  rw [preload] at h
  split at h
  · rw [ConfigCache.warmWithin_eq] at h
    cases hwarm : guilds.foldlM (ConfigCache.warmNext store.load now)
        (0, { ttl := s.cacheTtlMs, limit := s.cacheCapacity.toNat }) with
    | error text =>
      rw [hwarm] at h
      cases h
    | ok r =>
      rw [hwarm] at h
      cases h
      exact ConfigCache.foldlM_warmNext_ttl hwarm
  · cases h
    rfl

/-- Preloading succeeds if a policy that is put in now expires at a moment of the clock. -/
theorem exists_preload (h : now + s.cacheTtlMs ≤ lastMoment) (store : DirectoryStore)
    (guilds : List GuildId) : ∃ cache log, preload s store guilds now = .ok (cache, log) := by
  rw [preload]
  split
  · obtain ⟨r, hr⟩ := ConfigCache.exists_foldlM_warmNext
      (r := (0, { ttl := s.cacheTtlMs, limit := s.cacheCapacity.toNat }))
      (decide_eq_false (Nat.not_lt_of_le h)) store.load guilds
    rw [ConfigCache.warmWithin_eq, hr]
    exact ⟨_, _, rfl⟩
  · exact ⟨_, _, rfl⟩

theorem reapIntervalMs_pos (s : Settings) : 0 < s.reapIntervalMs := by
  rw [Settings.reapIntervalMs]
  omega

/-- The maintenance starts if its queue can be made; it always has time between its passes. -/
theorem maintain_eq_ok {m : MaintainedCache} (h : maintain s cache now = .ok m) :
    queueBreakdown? s.invalidationBuffer.toNat = none ∧ m.shared = { cache } ∧
      m.hasEnded? = some false := by
  rw [maintain] at h
  split at h
  · cases h
  · next hqueue =>
    cases h
    rw [MaintainedCache.start_of_idle rfl rfl now (reapIntervalMs_pos s)]
    exact ⟨hqueue, rfl, rfl⟩

theorem exists_maintain (h : queueBreakdown? s.invalidationBuffer.toNat = none)
    (cache : ConfigCache) (now : Nat) : ∃ m, maintain s cache now = .ok m := by
  rw [maintain, h]
  exact ⟨_, rfl⟩

/-! ## The whole start -/

/-- With a token, and a directory that is a pattern, a start breaks down or succeeds. -/
theorem ofSettings_of_knownGuilds
    (h : (⟨s.configDir, files⟩ : DirectoryStore).knownGuilds = .ok guilds) :
    (∃ text, (ofSettings s (some token) files now).1 = .crashed text) ∨
      ∃ p, (ofSettings s (some token) files now).1 = .started p := by
  rw [ofSettings, h]
  dsimp only
  split
  · exact Or.inl ⟨_, rfl⟩
  · split
    · exact Or.inl ⟨_, rfl⟩
    · exact Or.inr ⟨_, rfl⟩

/-- A program that has started has a queue, a task at it, and a cache with the `ttl` of the settings
that nobody uses yet. -/
theorem started_spec {token : Option String} {p : Program}
    (h : (ofSettings s token files now).1 = .started p) :
    queueBreakdown? s.invalidationBuffer.toNat = none ∧ p.cache.hasEnded? = some false ∧
      ∃ cache : ConfigCache, p.asRun now = { now, shared := { cache } } ∧
        cache.ttl = s.cacheTtlMs := by
  cases token with
  | none => cases h
  | some token =>
    rw [ofSettings] at h
    split at h
    · cases h
    · split at h
      · cases h
      · next cache log hpreload =>
        split at h
        · cases h
        · next m hmaintain =>
          cases h
          obtain ⟨hqueue, hshared, htask⟩ := maintain_eq_ok hmaintain
          exact ⟨hqueue, htask, cache, by rw [Program.asRun, hshared], preload_ttl hpreload⟩

/-- A start breaks down only because of the directory, the clock or the queue. -/
theorem ofSettings_ne_crashed {token : Option String} {text : String}
    (hclock : now + s.cacheTtlMs ≤ lastMoment)
    (hqueue : queueBreakdown? s.invalidationBuffer.toNat = none) :
    (ofSettings s token files now).1 ≠ .crashed text := by
  cases token with
  | none => exact nofun
  | some token =>
    rw [ofSettings]
    split
    · exact nofun
    · next guilds hknown =>
      obtain ⟨cache, log, hpreload⟩ := exists_preload hclock ⟨s.configDir, files⟩ guilds
      obtain ⟨m, hmaintain⟩ := exists_maintain hqueue cache now
      rw [hpreload]
      dsimp only
      rw [hmaintain]
      exact nofun

/-- The settings that are loaded are those that the program starts with. -/
theorem run_of_load {env : Settings.Environment} {log : List Log.Event}
    (h : Settings.load files env = .ok (s, log)) :
    (run files env now).1 = (ofSettings s (env.lookup "DISCORD_TOKEN") files now).1 := by
  rw [run, h]

/-- A start with a directory that is no pattern ends with a report. -/
theorem ofSettings_of_parse_none (token : Option String) (files : Tree) (now : Nat)
    (h : PathPattern.parse? (joinPath s.configDir "*.yaml") = none) :
    ∃ e, (ofSettings s token files now).1 = .failed e := by
  cases token with
  | none => exact ⟨_, rfl⟩
  | some token =>
    rw [ofSettings, DirectoryStore.knownGuilds_of_parse_none (d := ⟨s.configDir, files⟩) h]
    exact ⟨_, rfl⟩

end Startup

namespace Settings

variable {s : Settings} {horizon : Nat} {p : PathPattern}

/-! ## What settings have to meet -/

/-- Where a program can be started at all, it has to start at every moment. -/
theorem NeverBreaksDown.exists_started (h : s.NeverBreaksDown horizon)
    (hdir : PathPattern.parse? (joinPath s.configDir "*.yaml") = some p) :
    ∃ p, (Startup.ofSettings s (some "") {} horizon).1 = .started p := by
  obtain ⟨guilds, hguilds⟩ :=
    DirectoryStore.knownGuilds_of_parse (d := ⟨s.configDir, {}⟩) hdir
  refine (Startup.ofSettings_of_knownGuilds hguilds).resolve_left ?_
  rintro ⟨text, hcrashed⟩
  exact h.starts _ _ _ text (Nat.le_refl _) hcrashed

theorem NeverBreaksDown.queue (h : s.NeverBreaksDown horizon)
    (hdir : PathPattern.parse? (joinPath s.configDir "*.yaml") = some p) :
    0 < s.invalidationBuffer.toNat ∧ s.invalidationBuffer.toNat ≤ Startup.maxBuffer := by
  obtain ⟨program, hstarted⟩ := h.exists_started hdir
  exact Startup.queueBreakdown?_eq_none_iff.mp (Startup.started_spec hstarted).1

/-- A lookup at the last moment has to survive. -/
theorem NeverBreaksDown.clock (h : s.NeverBreaksDown horizon)
    (hdir : PathPattern.parse? (joinPath s.configDir "*.yaml") = some p) :
    horizon + s.cacheTtlMs ≤ lastMoment := by
  obtain ⟨program, hstarted⟩ := h.exists_started hdir
  obtain ⟨-, -, cache, hrun, httl⟩ := Startup.started_spec hstarted
  have hsurvives := h.answers _ _ _ _ CacheRun.missOfUnknown hstarted
  rw [hrun, CacheRun.now_run_missOfUnknown, CacheRun.survives_missOfUnknown_iff, httl] at hsurvives
  exact hsurvives (Nat.le_refl _)

/-! ## What settings that meet it do -/

/-- Two things are left to show: who loads settings starts with them, and the maintenance of a
program that has started is at work. -/
theorem NeverBreaksDown.of_starts
    (hstarts : ∀ token files now text, now ≤ horizon →
      (Startup.ofSettings s token files now).1 ≠ .crashed text)
    (hanswers : ∀ token files now p actions,
      (Startup.ofSettings s token files now).1 = .started p →
        ((p.asRun now).run actions).now ≤ horizon → (p.asRun now).survives actions = true) :
    s.NeverBreaksDown horizon where
  starts := hstarts
  loads files env log now text hnow hload := by
    rw [Startup.run_of_load hload]
    exact hstarts _ files now text hnow
  maintains token files now program hstarted := (Startup.started_spec hstarted).2.1
  answers := hanswers

/-- With a directory that is no pattern a program never starts. -/
theorem neverBreaksDown_of_parse_none
    (h : PathPattern.parse? (joinPath s.configDir "*.yaml") = none) :
    s.NeverBreaksDown horizon := by
  refine .of_starts (fun token files now text _ hcrashed ↦ ?_)
    (fun token files now program actions hstarted ↦ ?_)
  · obtain ⟨e, hfailed⟩ := Startup.ofSettings_of_parse_none token files now h
    rw [hfailed] at hcrashed
    cases hcrashed
  · obtain ⟨e, hfailed⟩ := Startup.ofSettings_of_parse_none token files now h
    rw [hfailed] at hstarted
    cases hstarted

theorem neverBreaksDown_of_limits
    (hqueue : 0 < s.invalidationBuffer.toNat ∧ s.invalidationBuffer.toNat ≤ Startup.maxBuffer)
    (hclock : horizon + s.cacheTtlMs ≤ lastMoment) : s.NeverBreaksDown horizon := by
  refine .of_starts (fun token files now text hnow ↦ ?_)
    (fun token files now program actions hstarted hlast ↦ ?_)
  · refine Startup.ofSettings_ne_crashed ?_ (Startup.queueBreakdown?_eq_none_iff.mpr hqueue)
    exact Nat.le_trans (Nat.add_le_add_right hnow _) hclock
  · obtain ⟨-, -, cache, hrun, httl⟩ := Startup.started_spec hstarted
    refine CacheRun.survives_of_le ?_
    rw [hrun] at hlast ⊢
    rw [httl]
    exact Nat.le_trans (Nat.add_le_add_right hlast _) hclock

/-- Settings never break the program down exactly if the queue of requests can be made and a policy
that is put in at the last moment expires at one of the clock, or if the directory is no pattern.
The capacity of the cache and the time between two passes do not matter. -/
theorem neverBreaksDown_iff (s : Settings) (horizon : Nat) :
    s.NeverBreaksDown horizon ↔
      PathPattern.parse? (joinPath s.configDir "*.yaml") = none ∨
        (0 < s.invalidationBuffer.toNat ∧ s.invalidationBuffer.toNat ≤ Startup.maxBuffer) ∧
          horizon + s.cacheTtlMs ≤ lastMoment := by
  constructor
  · intro h
    cases hdir : PathPattern.parse? (joinPath s.configDir "*.yaml") with
    | none => exact Or.inl rfl
    | some p => exact Or.inr ⟨h.queue hdir, h.clock hdir⟩
  · rintro (hdir | ⟨hqueue, hclock⟩)
    · exact neverBreaksDown_of_parse_none hdir
    · exact neverBreaksDown_of_limits hqueue hclock

/-- The program breaks down at its start if the settings leave no room for requests. The same holds
of a `ttl` that the clock cannot tell. -/
theorem not_neverBreaksDown_without_room :
    let text := "invalidation_buffer: 0\n"
    let files := ({} : Tree).put Settings.path (.file text.toUTF8.data.toList)
    (Startup.run files [("DISCORD_TOKEN", "token")] 0).1.exitCode = 101 ∧
      ¬ ({ invalidationBuffer := 0 } : Settings).NeverBreaksDown 0 ∧
      ¬ ({ cacheTtl := 18446744073709551615 } : Settings).NeverBreaksDown 0 := by
  intro text files
  have hdir : ∃ p, PathPattern.parse? (joinPath "data/automod" "*.yaml") = some p :=
    Option.isSome_iff_exists.mp (by decide +kernel)
  obtain ⟨p, hdir⟩ := hdir
  refine ⟨by decide +kernel, fun h ↦ ?_, fun h ↦ ?_⟩
  · exact absurd (h.queue hdir).1 (by decide)
  · exact absurd (h.clock hdir) (by decide +kernel)

end Settings

end GuildModeration
