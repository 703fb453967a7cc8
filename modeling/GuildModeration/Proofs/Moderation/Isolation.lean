import GuildModeration.Proofs.Cache.Entries
import GuildModeration.Proofs.Evaluation.Locality
import GuildModeration.Proofs.Moderation.Verdicts

/-!
# Guilds do not see each other

All guilds share one cache, one table of windows and one table of counts, and still what becomes of
the messages of a guild is the same as if no other guild were there. The cache may lose the policy
of a guild because of others and load it again later, but as long as the store does not change it
serves nothing but the policy of the store (`ConfigCache.Serves`). All else is kept by guild: a
check reads and writes the windows and the counts of its own guild alone, and a pass treats every
window by itself.

Two runs are compared, one with the calls of all guilds and one with those of a single guild. What
relates them after every incident is `Watch.AgreesFor`.
-/

namespace GuildModeration

/-- What does not change in a run: who the bot is, and the documents in the store, which can always
be had. -/
structure Setting where
  self : UserId
  documents : GuildId → Option GuildConfig

namespace Setting

/-- What the store answers. -/
def load (s : Setting) (guild : GuildId) : StoreAnswer :=
  .ok (s.documents guild)

/-- The policy of a guild. -/
def policy (s : Setting) (guild : GuildId) : GuildConfig :=
  .served guild (s.documents guild)

end Setting

variable {s : Setting} {guild : GuildId}

/-! ## The cache -/

namespace ConfigCache

/-- Whatever is in the cache is the policy of its guild. -/
def Serves (c : ConfigCache) (s : Setting) : Prop :=
  ∀ guild e, c.entries.find? guild = some e → e.config = s.policy guild

variable {c : ConfigCache} {now : Nat}

theorem serves_empty (s : Setting) (ttl limit : Nat) : Serves { ttl, limit } s := by
  intro guild e h
  cases h

theorem Serves.config_eq (h : c.Serves s) {config : GuildConfig}
    (hfresh : c.fresh? now guild = some config) : config = s.policy guild := by
  obtain ⟨e, he, -, rfl⟩ := fresh?_eq_some_iff.mp hfresh
  exact h guild e he

theorem Serves.touch (h : c.Serves s) (now : Nat) (guild : GuildId) :
    (c.touch now guild).Serves s := by
  intro other e he
  obtain ⟨old, hold, hconfig, -⟩ := find?_touch he
  exact hconfig.trans (h other old hold)

theorem Serves.insert (h : c.Serves s) (now : Nat) (guild : GuildId) :
    (c.insert now guild (s.policy guild)).Serves s := by
  intro other e he
  by_cases hg : guild = other
  · subst hg
    rw [find?_insert_self, Option.some.injEq] at he
    rw [← he]
  · exact h other e (find?_of_insert he hg)

theorem Serves.reap (h : c.Serves s) (now : Nat) : (c.reap now).2.Serves s := by
  intro guild e he
  exact h guild e (find?_of_reap he)

theorem Serves.get (h : c.Serves s) (now : Nat) (guild : GuildId) :
    (c.get s.load now guild).1 = .ok (s.policy guild) ∧ (c.get s.load now guild).2.Serves s := by
  rw [ConfigCache.get]
  cases hfresh : c.fresh? now guild with
  | some config =>
    rw [look_of_fresh hfresh, h.config_eq hfresh]
    exact ⟨rfl, h.touch now guild⟩
  | none =>
    rw [look_of_not_fresh hfresh]
    exact ⟨rfl, h.insert now guild⟩

end ConfigCache

/-! ## The engine -/

namespace Engine

/-- Checks a message under the policy that the store has for its guild. -/
def checkUnder (e : Engine) (s : Setting) (a : Arrival) : Checked :=
  match e.accept s.self a.message a.channel with
  | .error log => { verdict := .skipped, log, engine := e }
  | .ok channel => e.judge (s.policy channel.guild) ⟨a.message, channel, a.member⟩

/-- The cache does not change what a check finds. -/
theorem check_of_serves (e : Engine) {cache : ConfigCache} (h : cache.Serves s) (now : Nat)
    (a : Arrival) :
    (e.check cache s.load now s.self a.message a.channel a.member).1 = e.checkUnder s a ∧
      (e.check cache s.load now s.self a.message a.channel a.member).2.Serves s := by
  rw [check, checkUnder]
  cases e.accept s.self a.message a.channel with
  | error log => exact ⟨rfl, h⟩
  | ok channel =>
    obtain ⟨hconfig, hserves⟩ := h.get now channel.guild
    refine ⟨?_, hserves⟩
    dsimp only
    rw [hconfig]
    rfl

/-- The engines agree on all that belongs to a guild: its windows and its counts. They have the same
source of reputation, and are both switched on or both switched off. -/
structure AgreesFor (guild : GuildId) (e e' : Engine) : Prop where
  isEnabled_eq : e.isEnabled = e'.isEnabled
  reputation_eq : e.state.reputation = e'.state.reputation
  window_eq : ∀ key : Spam.WindowKey, key.guild = guild →
    e.state.spam.windows.find? key = e'.state.spam.windows.find? key
  count_eq : ∀ activity, e.counters.count guild activity = e'.counters.count guild activity

variable {e e' : Engine}

theorem AgreesFor.refl (guild : GuildId) (e : Engine) : AgreesFor guild e e :=
  ⟨rfl, rfl, fun _ _ ↦ rfl, fun _ ↦ rfl⟩

theorem AgreesFor.trans {e'' : Engine} (h : AgreesFor guild e e') (h' : AgreesFor guild e' e'') :
    AgreesFor guild e e'' where
  isEnabled_eq := h.isEnabled_eq.trans h'.isEnabled_eq
  reputation_eq := h.reputation_eq.trans h'.reputation_eq
  window_eq key hkey := (h.window_eq key hkey).trans (h'.window_eq key hkey)
  count_eq activity := (h.count_eq activity).trans (h'.count_eq activity)

/-- Whether a message is looked at depends on nothing that changes. -/
theorem accept_congr (h : e.isEnabled = e'.isEnabled) (self : UserId) (m : Message)
    (channel : Option Channel) : e.accept self m channel = e'.accept self m channel := by
  unfold accept
  rw [h]

/-- A pass treats the windows of a guild alike. -/
theorem AgreesFor.pass (h : AgreesFor guild e e') (time : Int) :
    AgreesFor guild (e.pass time).2 (e'.pass time).2 where
  isEnabled_eq := h.isEnabled_eq
  reputation_eq := h.reputation_eq
  window_eq key hkey := by
    have hpass : ∀ e : Engine, (e.pass time).2.state.spam.windows =
        e.state.spam.windows.filter fun _ w ↦ w.isActive (time - idleLimit) := fun _ ↦ rfl
    rw [hpass, hpass, Table.find?_filter, Table.find?_filter, h.window_eq key hkey]
  count_eq := h.count_eq

theorem count_record_of_ne (counters : Counters) {other : GuildId} (hne : other ≠ guild)
    (activity activity' : Activity) :
    (counters.record other activity).count guild activity' = counters.count guild activity' := by
  rw [Counters.count_record, if_neg, Nat.add_zero]
  intro heq
  exact hne (Prod.mk.inj heq).1

/-! ### Judging -/

section Judge

variable {config : GuildConfig} {c : MessageContext}

theorem judge_isEnabled (e : Engine) (config : GuildConfig) (c : MessageContext) :
    (e.judge config c).engine.isEnabled = e.isEnabled := by
  cases henabled : config.enabled with
  | false => rw [judge_of_disabled e henabled]
  | true =>
    rw [judge_of_enabled e henabled]
    split
    · rfl
    · split <;> rfl

/-- Judging a message of another guild changes nothing that belongs to this one. -/
theorem agreesFor_judge_of_ne (e : Engine) (config : GuildConfig) (hne : c.channel.guild ≠ guild) :
    AgreesFor guild e (e.judge config c).engine := by
  have hchanges := evaluate_changesAt config c e.state
  have hwindow : ∀ key : Spam.WindowKey, key.guild = guild → e.state.spam.windows.find? key =
      (evaluate config c e.state).state.spam.windows.find? key := by
    intro key hkey
    refine (hchanges.window_eq ?_).symm
    rintro rfl
    exact hne hkey
  have hcount : ∀ activity activity', e.counters.count guild activity' =
      (e.counters.record c.channel.guild activity).count guild activity' := by
    intro activity activity'
    rw [count_record_of_ne _ hne]
  cases henabled : config.enabled with
  | false =>
    rw [judge_of_disabled e henabled]
    exact .refl guild e
  | true =>
    rw [judge_of_enabled e henabled]
    split
    · exact ⟨rfl, hchanges.reputation_eq.symm, hwindow, hcount _⟩
    · split
      · exact ⟨rfl, hchanges.reputation_eq.symm, hwindow, hcount _⟩
      · exact ⟨rfl, hchanges.reputation_eq.symm, hwindow, fun _ ↦ rfl⟩

/-- Engines that agree for the guild of a message judge it alike, and agree afterwards. -/
theorem AgreesFor.judge (h : AgreesFor guild e e') (config : GuildConfig)
    (hguild : c.channel.guild = guild) :
    (e.judge config c).verdict = (e'.judge config c).verdict ∧
      (e.judge config c).log = (e'.judge config c).log ∧
      AgreesFor guild (e.judge config c).engine (e'.judge config c).engine := by
  have hsees : e.state.AgreesAt c.windowKey e'.state :=
    ⟨h.reputation_eq, h.window_eq c.windowKey hguild⟩
  obtain ⟨hevaluation, hlog, hstate⟩ := evaluate_agrees config hsees
  have hwindow : ∀ key : Spam.WindowKey, key.guild = guild →
      (evaluate config c e.state).state.spam.windows.find? key =
        (evaluate config c e'.state).state.spam.windows.find? key := by
    intro key hkey
    by_cases hown : c.windowKey = key
    · subst hown
      exact hstate.window_eq
    · rw [(evaluate_changesAt config c e.state).window_eq hown,
        (evaluate_changesAt config c e'.state).window_eq hown, h.window_eq key hkey]
  have hcount : ∀ activity activity',
      (e.counters.record c.channel.guild activity).count guild activity' =
        (e'.counters.record c.channel.guild activity).count guild activity' := by
    intro activity activity'
    rw [Counters.count_record, Counters.count_record, h.count_eq]
  cases henabled : config.enabled with
  | false =>
    rw [judge_of_disabled e henabled, judge_of_disabled e' henabled]
    exact ⟨rfl, rfl, h⟩
  | true =>
    rw [judge_of_enabled e henabled, judge_of_enabled e' henabled, hevaluation, hlog]
    split
    · exact ⟨rfl, rfl, h.isEnabled_eq, hstate.reputation_eq, hwindow, hcount _⟩
    · split
      · exact ⟨rfl, rfl, h.isEnabled_eq, hstate.reputation_eq, hwindow, hcount _⟩
      · exact ⟨rfl, rfl, h.isEnabled_eq, hstate.reputation_eq, hwindow, h.count_eq⟩

end Judge

end Engine

/-- The call is not one for a channel of another guild. -/
def Arrival.concerns (guild : GuildId) (a : Arrival) : Bool :=
  a.channel.all (·.guild == guild)

namespace Engine

variable {e e' : Engine} {a : Arrival}

theorem checkUnder_of_ok {channel : Channel}
    (h : e.accept s.self a.message a.channel = .ok channel) :
    e.checkUnder s a = e.judge (s.policy channel.guild) ⟨a.message, channel, a.member⟩ := by
  rw [checkUnder, h]

theorem checkUnder_isEnabled (e : Engine) (s : Setting) (a : Arrival) :
    (e.checkUnder s a).engine.isEnabled = e.isEnabled := by
  rw [checkUnder]
  split
  · rfl
  · exact e.judge_isEnabled _ _

/-- A check for a channel of another guild changes nothing that belongs to this one. -/
theorem agreesFor_checkUnder_of_not_concerns (e : Engine) (s : Setting)
    (h : ¬ a.concerns guild = true) : AgreesFor guild e (e.checkUnder s a).engine := by
  rw [checkUnder]
  cases haccept : e.accept s.self a.message a.channel with
  | error log => exact .refl guild e
  | ok channel =>
    obtain ⟨-, -, hchannel⟩ := accept_eq_ok_iff.mp haccept
    apply agreesFor_judge_of_ne
    intro heq
    apply h
    rw [Arrival.concerns, hchannel]
    exact beq_iff_eq.mpr heq

/-- Any other check comes out the same on engines that agree. -/
theorem AgreesFor.checkUnder (h : AgreesFor guild e e') (s : Setting)
    (hconcerns : a.concerns guild = true) :
    (e.checkUnder s a).verdict = (e'.checkUnder s a).verdict ∧
      (e.checkUnder s a).log = (e'.checkUnder s a).log ∧
      AgreesFor guild (e.checkUnder s a).engine (e'.checkUnder s a).engine := by
  rw [Engine.checkUnder, Engine.checkUnder, ← accept_congr h.isEnabled_eq]
  cases haccept : e.accept s.self a.message a.channel with
  | error log => exact ⟨rfl, rfl, h⟩
  | ok channel =>
    obtain ⟨-, -, hchannel⟩ := accept_eq_ok_iff.mp haccept
    apply h.judge
    rw [Arrival.concerns, hchannel] at hconcerns
    exact beq_iff_eq.mp hconcerns

end Engine

/-! ## Runs -/

/-- What came of a call: the outcome, with the decision and the calls of the punishment, and what
was reported. -/
structure Ruling where
  arrival : Arrival
  outcome : Outcome
  log : List Log.Event

/-- The ruling on a call. -/
def Checked.ruling (c : Checked) (a : Arrival) : Ruling :=
  ⟨a, Moderator.outcomeOf a.respond c.verdict, c.log⟩

/-- What can happen in a run. -/
inductive Incident where
  /-- A message is checked. -/
  | call (a : Arrival)
  /-- Time passes. -/
  | wait (ms : Nat)
  /-- The maintenance makes a pass. -/
  | pass (wallClock : Int)

/-- The incident is not a call for a channel of another guild. -/
def Incident.concerns (guild : GuildId) : Incident → Bool
  | .call a => a.concerns guild
  | .wait _ => true
  | .pass _ => true

/-- A run in which messages are checked one after the other. -/
structure Watch where
  now : Nat
  cache : ConfigCache
  engine : Engine
  rulings : List Ruling := []

namespace Watch

/-- The start of a run: nothing is in the cache. -/
def start (ttl limit now : Nat) (engine : Engine) : Watch where
  now
  cache := { ttl, limit }
  engine

/-- Lets something happen. -/
def step (s : Setting) (w : Watch) : Incident → Watch
  | .call a =>
    let (checked, cache) :=
      w.engine.check w.cache s.load w.now s.self a.message a.channel a.member
    { w with cache, engine := checked.engine, rulings := w.rulings ++ [checked.ruling a] }
  | .wait ms => { w with now := w.now + ms }
  | .pass wallClock =>
    { w with cache := (w.cache.reap w.now).2, engine := (w.engine.pass wallClock).2 }

/-- Lets incidents happen one after the other. -/
def run (s : Setting) (w : Watch) (incidents : List Incident) : Watch :=
  incidents.foldl (step s) w

variable {w own all : Watch}

theorem step_call (h : w.cache.Serves s) (a : Arrival) :
    (w.step s (.call a)).now = w.now ∧ (w.step s (.call a)).cache.Serves s ∧
      (w.step s (.call a)).engine = (w.engine.checkUnder s a).engine ∧
      (w.step s (.call a)).rulings = w.rulings ++ [(w.engine.checkUnder s a).ruling a] := by
  obtain ⟨hchecked, hserves⟩ := w.engine.check_of_serves h w.now a
  refine ⟨rfl, hserves, ?_, ?_⟩
  · rw [← hchecked]
    rfl
  · rw [← hchecked]
    rfl

/-- A run with the calls of one guild beside a run with those of all guilds. -/
structure AgreesFor (s : Setting) (guild : GuildId) (own all : Watch) : Prop where
  serves : own.cache.Serves s
  serves' : all.cache.Serves s
  now_eq : own.now = all.now
  engine : own.engine.AgreesFor guild all.engine
  rulings_eq : own.rulings = all.rulings.filter (·.arrival.concerns guild)

/-- What concerns the guild happens in both runs. -/
theorem AgreesFor.step (h : AgreesFor s guild own all) {i : Incident}
    (hconcerns : i.concerns guild = true) :
    AgreesFor s guild (own.step s i) (all.step s i) := by
  cases i with
  | call a =>
    obtain ⟨hnow, hserves, hengine, hrulings⟩ := step_call h.serves a
    obtain ⟨hnow', hserves', hengine', hrulings'⟩ := step_call h.serves' a
    obtain ⟨hverdict, hlog, hagrees⟩ := h.engine.checkUnder s hconcerns
    refine ⟨hserves, hserves', ?_, ?_, ?_⟩
    · rw [hnow, hnow', h.now_eq]
    · rwa [hengine, hengine']
    · have hsame : (own.engine.checkUnder s a).ruling a = (all.engine.checkUnder s a).ruling a := by
        rw [Checked.ruling, Checked.ruling, hverdict, hlog]
      have hkept : [(all.engine.checkUnder s a).ruling a].filter (·.arrival.concerns guild) =
          [(all.engine.checkUnder s a).ruling a] := List.filter_cons_of_pos hconcerns
      rw [hrulings, hrulings', List.filter_append, hkept, ← h.rulings_eq, hsame]
  | wait ms => exact { h with now_eq := congrArg (· + ms) h.now_eq }
  | pass wallClock =>
    exact { h with
      serves := h.serves.reap own.now
      serves' := h.serves'.reap all.now
      engine := h.engine.pass wallClock }

/-- A call for a channel of another guild happens in the second run only. -/
theorem AgreesFor.skip (h : AgreesFor s guild own all) {i : Incident}
    (hother : ¬ i.concerns guild = true) : AgreesFor s guild own (all.step s i) := by
  cases i with
  | call a =>
    obtain ⟨hnow, hserves, hengine, hrulings⟩ := step_call h.serves' a
    refine ⟨h.serves, hserves, ?_, ?_, ?_⟩
    · rw [hnow, h.now_eq]
    · rw [hengine]
      exact h.engine.trans (all.engine.agreesFor_checkUnder_of_not_concerns s hother)
    · have hgone : [(all.engine.checkUnder s a).ruling a].filter (·.arrival.concerns guild) = [] :=
        List.filter_cons_of_neg hother
      rw [hrulings, List.filter_append, hgone, List.append_nil, h.rulings_eq]
  | wait ms => exact absurd rfl hother
  | pass wallClock => exact absurd rfl hother

theorem AgreesFor.run (h : AgreesFor s guild own all) (incidents : List Incident) :
    AgreesFor s guild (own.run s (incidents.filter (·.concerns guild))) (all.run s incidents) := by
  induction incidents generalizing own all with
  | nil => exact h
  | cons i incidents ih =>
    by_cases hconcerns : i.concerns guild = true
    · rw [List.filter_cons_of_pos hconcerns]
      exact ih (h.step hconcerns)
    · rw [List.filter_cons_of_neg hconcerns]
      exact ih (h.skip hconcerns)

/-- Without the calls of the other guilds a run goes the same way for a guild. -/
theorem agreesFor_run (s : Setting) (guild : GuildId) (ttl limit now : Nat) (engine : Engine)
    (incidents : List Incident) :
    AgreesFor s guild
      ((start ttl limit now engine).run s (incidents.filter (·.concerns guild)))
      ((start ttl limit now engine).run s incidents) := by
  apply AgreesFor.run
  exact ⟨ConfigCache.serves_empty s ttl limit, ConfigCache.serves_empty s ttl limit, rfl,
    .refl guild engine, rfl⟩

end Watch

end GuildModeration
