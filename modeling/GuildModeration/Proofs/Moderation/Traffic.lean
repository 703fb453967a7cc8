import GuildModeration.Proofs.Cache.Records
import GuildModeration.Proofs.Moderation.Isolation

/-!
# Calls that overlap

A call that misses the cache waits, for the lock of its guild and for the store, and meanwhile other
calls come and go. It looks at the rules and at what they share only when its wait is over, in one
go. So whatever overlaps, the calls have an order, that of the moments at which their messages are
judged, and what becomes of them is what would have become of them one after the other in this order
(`Traffic.InOrder`). Other guilds may make a call wait; they have no part in what comes of it.
-/

namespace GuildModeration

/-- A call that waits for the policy of its guild. -/
structure Caller where
  lookup : LookupId
  arrival : Arrival
  channel : Channel

/-- A step of a call, or something that happens beside the calls. What is not possible at the moment
changes nothing. -/
inductive TrafficAction where
  /-- A call begins. It is over at once if the message is not looked at or its policy is there. -/
  | call (a : Arrival)
  /-- The call of a lookup that was granted its lock goes on. -/
  | resume (id : LookupId)
  /-- The store answers a lookup, and its call goes on. -/
  | finish (id : LookupId)
  /-- Time passes. -/
  | wait (ms : Nat)
  /-- The maintenance makes a pass. -/
  | pass (wallClock : Int)

/-- Calls under way at one moment, and what became of those before. -/
structure Traffic where
  now : Nat
  shared : SharedCache
  engine : Engine
  waiting : List Caller := []
  rulings : List Ruling := []
  /-- What has happened so far, with each call where its message was judged. -/
  trace : List Incident := []

namespace Traffic

/-- The start of a run: nothing is in the cache, and no call is under way. -/
def start (ttl limit now : Nat) (engine : Engine) : Traffic where
  now
  shared := { cache := { ttl, limit } }
  engine

/-- Ends a call. -/
def settle (t : Traffic) (a : Arrival) (checked : Checked) : Traffic :=
  { t with
    engine := checked.engine
    rulings := t.rulings ++ [checked.ruling a]
    trace := t.trace ++ [.call a] }

/-- Lets the call that waited for a lookup judge its message. -/
def answer (t : Traffic) (id : LookupId) (config : Except StoreError GuildConfig) : Traffic :=
  match t.waiting.find? (·.lookup == id) with
  | some c =>
    { t with waiting := t.waiting.filter (·.lookup != id) }.settle c.arrival
      (t.engine.conclude config ⟨c.arrival.message, c.channel, c.arrival.member⟩)
  | none => t

/-- Lets an action happen. -/
def step (s : Setting) (t : Traffic) : TrafficAction → Traffic
  | .call a =>
    match t.engine.accept s.self a.message a.channel with
    | .error log => t.settle a { verdict := .skipped, log, engine := t.engine }
    | .ok channel =>
      match t.shared.start t.now channel.guild with
      | (some config, shared) =>
        { t with shared }.settle a (t.engine.conclude (.ok config) ⟨a.message, channel, a.member⟩)
      | (none, shared) =>
        { t with shared, waiting := t.waiting ++ [⟨t.shared.nextLookup, a, channel⟩] }
  | .resume id =>
    match t.shared.inPhase? id .granted with
    | some l =>
      match t.shared.resume t.now l with
      | (some config, shared) => { t with shared }.answer l.id (.ok config)
      | (none, shared) => { t with shared }
    | none => t
  | .finish id =>
    match t.shared.inPhase? id .loading with
    | some l =>
      let (config, shared) := t.shared.finish t.now l (s.load l.guild)
      { t with shared }.answer l.id config
    | none => t
  | .wait ms => { t with now := t.now + ms, trace := t.trace ++ [.wait ms] }
  | .pass wallClock =>
    { t with
      shared := (t.shared.reap t.now).2
      engine := (t.engine.pass wallClock).2
      trace := t.trace ++ [.pass wallClock] }

/-- Lets actions happen one after the other. -/
def run (s : Setting) (t : Traffic) (actions : List TrafficAction) : Traffic :=
  actions.foldl (step s) t

variable {s : Setting} {t : Traffic} {w : Watch}

/-! ## Callers and their lookups -/

/-- The callers wait for lookups of their guilds, and the cache serves the policies of the store. -/
structure Attended (s : Setting) (shared : SharedCache) (waiting : List Caller) : Prop where
  orderly : shared.Orderly
  serves : shared.cache.Serves s
  lookup_lt : ∀ c ∈ waiting, c.lookup < shared.nextLookup
  guild_eq : ∀ l ∈ shared.lookups, ∀ c ∈ waiting, c.lookup = l.id → c.channel.guild = l.guild

section Attended

variable {shared : SharedCache} {waiting : List Caller} {l : Lookup} {now : Nat}

theorem Attended.mono (h : Attended s shared waiting) {fewer : List Caller}
    (hsub : ∀ c ∈ fewer, c ∈ waiting) : Attended s shared fewer where
  orderly := h.orderly
  serves := h.serves
  lookup_lt c hc := h.lookup_lt c (hsub c hc)
  guild_eq l hl c hc := h.guild_eq l hl c (hsub c hc)

theorem Attended.hit (h : Attended s shared waiting) (now : Nat) (guild : GuildId) :
    Attended s { shared with
      cache := shared.cache.touch now guild, nextLookup := shared.nextLookup + 1 } waiting where
  orderly :=
    { h.orderly with id_lt := fun l hl ↦ Nat.lt_succ_of_lt (h.orderly.id_lt l hl) }
  serves := h.serves.touch now guild
  lookup_lt c hc := Nat.lt_succ_of_lt (h.lookup_lt c hc)
  guild_eq := h.guild_eq

/-- A caller that misses the cache waits for a lookup of its own. -/
theorem Attended.miss (h : Attended s shared waiting) (a : Arrival) (channel : Channel) :
    Attended s
      ((shared.lockFor channel.guild).2.enqueue channel.guild (shared.lockFor channel.guild).1)
      (waiting ++ [⟨shared.nextLookup, a, channel⟩]) where
  orderly := (h.orderly.lockFor channel.guild).enqueue (shared.find?_lockFor channel.guild)
  serves := by
    have hcache : ((shared.lockFor channel.guild).2.enqueue channel.guild
        (shared.lockFor channel.guild).1).cache = shared.cache := shared.lockFor_cache channel.guild
    rw [hcache]
    exact h.serves
  lookup_lt c hc := by
    rw [SharedCache.enqueue, SharedCache.lockFor_nextLookup]
    rcases List.mem_append.mp hc with hc | hc
    · exact Nat.lt_succ_of_lt (h.lookup_lt c hc)
    · rw [List.mem_singleton.mp hc]
      exact Nat.lt_succ_self _
  guild_eq l hl c hc hid := by
    rw [SharedCache.enqueue, SharedCache.lockFor_lookups, SharedCache.lockFor_nextLookup] at hl
    -- the new lookup belongs to the new caller, as no identity is used twice
    rcases List.mem_append.mp hl with hl | hl
    · rcases List.mem_append.mp hc with hc | hc
      · exact h.guild_eq l hl c hc hid
      · rw [List.mem_singleton.mp hc] at hid
        exact absurd hid (Nat.ne_of_gt (h.orderly.id_lt l hl))
    · rw [List.mem_singleton.mp hl] at hid ⊢
      rcases List.mem_append.mp hc with hc | hc
      · exact absurd hid (Nat.ne_of_lt (h.lookup_lt c hc))
      · rw [List.mem_singleton.mp hc]

/-- The end of a lookup leaves the other callers to theirs. -/
theorem Attended.release (h : Attended s shared waiting) {cache : ConfigCache}
    (hserves : cache.Serves s) (hl : l ∈ shared.lookups) (hold : l.phase ≠ .waiting) :
    Attended s ((shared.withCache cache).release l) waiting where
  orderly := (h.orderly.withCache cache).release hl hold
  serves := by rwa [SharedCache.release_cache, SharedCache.withCache_cache]
  lookup_lt := by
    rw [SharedCache.release_nextLookup]
    exact h.lookup_lt
  guild_eq a ha c hc hid := by
    have hnodup := (h.orderly.withCache cache).ids_nodup
    obtain ⟨old, hmem, -, hidold, hguild, -⟩ := SharedCache.of_mem_release hnodup ha
    rw [hguild]
    exact h.guild_eq old hmem c hc (hid.trans hidold)

theorem Attended.setPhase (h : Attended s shared waiting) (hl : l ∈ shared.lookups)
    (hold : l.phase ≠ .waiting) : Attended s (shared.setPhase l.id .loading) waiting where
  orderly := h.orderly.setPhase hl hold (by simp)
  serves := h.serves
  lookup_lt := h.lookup_lt
  guild_eq a ha c hc hid := by
    rcases (SharedCache.mem_setPhase_iff h.orderly.ids_nodup hl).mp ha with rfl | ⟨ha, -⟩
    · exact h.guild_eq l hl c hc hid
    · exact h.guild_eq a ha c hc hid

theorem Attended.reap (h : Attended s shared waiting) (now : Nat) :
    Attended s (shared.reap now).2 waiting where
  orderly := h.orderly.reap now
  serves := h.serves.reap now
  lookup_lt := h.lookup_lt
  guild_eq := h.guild_eq

end Attended

/-! ## The order of the judgements -/

/-- What has become of the calls is what becomes of them one after the other, in the order in which
their messages were judged. -/
structure InOrder (s : Setting) (w : Watch) (t : Traffic) : Prop where
  attended : Attended s t.shared t.waiting
  accepted : ∀ c ∈ t.waiting,
    t.engine.accept s.self c.arrival.message c.arrival.channel = .ok c.channel
  serves : (w.run s t.trace).cache.Serves s
  now_eq : (w.run s t.trace).now = t.now
  engine_eq : (w.run s t.trace).engine = t.engine
  rulings_eq : (w.run s t.trace).rulings = t.rulings

theorem run_concat (s : Setting) (w : Watch) (incidents : List Incident) (i : Incident) :
    w.run s (incidents ++ [i]) = (w.run s incidents).step s i := by
  rw [Watch.run, List.foldl_append]
  rfl

theorem InOrder.withShared (h : InOrder s w t) {shared : SharedCache} {waiting : List Caller}
    (hattended : Attended s shared waiting)
    (haccepted : ∀ c ∈ waiting,
      t.engine.accept s.self c.arrival.message c.arrival.channel = .ok c.channel) :
    InOrder s w { t with shared, waiting } :=
  { h with attended := hattended, accepted := haccepted }

/-- A call whose message is judged now is the next in the order. -/
theorem InOrder.settle (h : InOrder s w t) (a : Arrival) :
    InOrder s w (t.settle a (t.engine.checkUnder s a)) := by
  obtain ⟨hnow, hserves, hengine, hrulings⟩ := Watch.step_call h.serves a
  rw [h.engine_eq] at hengine hrulings
  have htrace : w.run s (t.settle a (t.engine.checkUnder s a)).trace =
      (w.run s t.trace).step s (.call a) := run_concat s w t.trace (.call a)
  refine ⟨h.attended, fun c hc ↦ ?_, ?_, ?_, ?_, ?_⟩
  · rw [← h.accepted c hc]
    exact Engine.accept_congr (t.engine.checkUnder_isEnabled s a) _ _ _
  · rwa [htrace]
  · rw [htrace, hnow, h.now_eq]
    rfl
  · rw [htrace, hengine]
    rfl
  · rw [htrace, hrulings, h.rulings_eq]
    rfl

/-- A call that waited is next in the order when its lookup ends with the policy of its guild. -/
theorem InOrder.answer (h : InOrder s w t) {id : LookupId} {guild : GuildId}
    (hguild : ∀ c ∈ t.waiting, c.lookup = id → c.channel.guild = guild) :
    InOrder s w (t.answer id (.ok (s.policy guild))) := by
  rw [Traffic.answer]
  split
  · next c hfind =>
    have hc : c ∈ t.waiting := List.mem_of_find?_eq_some hfind
    have hid : c.lookup = id := by simpa using List.find?_some hfind
    have hchecked := Engine.checkUnder_of_ok (h.accepted c hc)
    rw [hguild c hc hid] at hchecked
    have hfewer : ∀ d ∈ t.waiting.filter (·.lookup != id), d ∈ t.waiting :=
      fun d hd ↦ (List.mem_filter.mp hd).1
    have hnext := (h.withShared (h.attended.mono hfewer)
      fun d hd ↦ h.accepted d (hfewer d hd)).settle c.arrival
    dsimp only at hnext
    rwa [hchecked] at hnext
  · exact h

theorem InOrder.call (h : InOrder s w t) (a : Arrival) : InOrder s w (t.step s (.call a)) := by
  have hnext := h.settle a
  rw [Traffic.step]
  cases haccept : t.engine.accept s.self a.message a.channel with
  | error log =>
    rw [Engine.checkUnder, haccept] at hnext
    exact hnext
  | ok channel =>
    rw [Engine.checkUnder_of_ok haccept] at hnext
    cases hfresh : t.shared.cache.fresh? t.now channel.guild with
    | some config =>
      have hhit := hnext.withShared (h.attended.hit t.now channel.guild) hnext.accepted
      dsimp only
      rw [SharedCache.start_of_fresh hfresh, h.attended.serves.config_eq hfresh]
      exact hhit
    | none =>
      dsimp only
      rw [SharedCache.start_of_not_fresh hfresh]
      apply h.withShared (h.attended.miss a channel)
      intro c hc
      rcases List.mem_append.mp hc with hc | hc
      · exact h.accepted c hc
      · rw [List.mem_singleton.mp hc]
        exact haccept

theorem InOrder.resume (h : InOrder s w t) (id : LookupId) :
    InOrder s w (t.step s (.resume id)) := by
  rw [Traffic.step]
  cases hfind : t.shared.inPhase? id .granted with
  | none => exact h
  | some l =>
    obtain ⟨hl, hphase⟩ := SharedCache.mem_of_inPhase? hfind
    have hold : l.phase ≠ .waiting := by simp [hphase]
    cases hfresh : t.shared.cache.fresh? t.now l.guild with
    | some config =>
      have hserves := h.attended.serves.touch t.now l.guild
      dsimp only
      rw [SharedCache.resume_of_fresh hfresh, h.attended.serves.config_eq hfresh]
      refine (h.withShared (h.attended.release hserves hl hold) h.accepted).answer ?_
      exact h.attended.guild_eq l hl
    | none =>
      dsimp only
      rw [SharedCache.resume_of_not_fresh hfresh]
      exact h.withShared (h.attended.setPhase hl hold) h.accepted

theorem InOrder.finish (h : InOrder s w t) (id : LookupId) :
    InOrder s w (t.step s (.finish id)) := by
  rw [Traffic.step]
  cases hfind : t.shared.inPhase? id .loading with
  | none => exact h
  | some l =>
    obtain ⟨hl, hphase⟩ := SharedCache.mem_of_inPhase? hfind
    have hold : l.phase ≠ .waiting := by simp [hphase]
    have hserves := h.attended.serves.insert t.now l.guild
    refine (h.withShared (h.attended.release hserves hl hold) h.accepted).answer ?_
    exact h.attended.guild_eq l hl

/-- Every action keeps the order. -/
theorem InOrder.step (h : InOrder s w t) (action : TrafficAction) :
    InOrder s w (t.step s action) := by
  cases action with
  | call a => exact h.call a
  | resume id => exact h.resume id
  | finish id => exact h.finish id
  | wait ms =>
    have htrace : w.run s (t.step s (.wait ms)).trace = (w.run s t.trace).step s (.wait ms) :=
      run_concat s w t.trace (.wait ms)
    refine ⟨h.attended, h.accepted, ?_, ?_, ?_, ?_⟩
    · rw [htrace]
      exact h.serves
    · rw [htrace, Watch.step, h.now_eq]
      rfl
    · rw [htrace]
      exact h.engine_eq
    · rw [htrace]
      exact h.rulings_eq
  | pass wallClock =>
    have htrace : w.run s (t.step s (.pass wallClock)).trace =
        (w.run s t.trace).step s (.pass wallClock) := run_concat s w t.trace (.pass wallClock)
    refine ⟨h.attended.reap t.now, h.accepted, ?_, ?_, ?_, ?_⟩
    · rw [htrace]
      exact h.serves.reap _
    · rw [htrace]
      exact h.now_eq
    · rw [htrace, Watch.step, h.engine_eq]
      rfl
    · rw [htrace]
      exact h.rulings_eq

theorem InOrder.run (h : InOrder s w t) (actions : List TrafficAction) :
    InOrder s w (t.run s actions) := by
  induction actions generalizing t with
  | nil => exact h
  | cons action actions ih => exact ih (h.step action)

/-- Calls that overlap are as good as calls one after the other. -/
theorem inOrder_run (s : Setting) (ttl limit now : Nat) (engine : Engine)
    (actions : List TrafficAction) :
    InOrder s (.start ttl limit now engine) ((start ttl limit now engine).run s actions) := by
  apply InOrder.run
  have hserves := ConfigCache.serves_empty s ttl limit
  refine ⟨⟨CacheRun.orderly_new ttl limit now, hserves, ?_, ?_⟩, ?_, hserves, rfl, rfl, rfl⟩
  · simp [start]
  · simp [start]
  · simp [start]

end Traffic

/-! ## What happens beside the calls -/

/-- A message is checked. -/
def Incident.isCall : Incident → Bool
  | .call _ => true
  | .wait _ => false
  | .pass _ => false

/-- What happens beside the calls, if the action is no step of one. -/
def TrafficAction.beside? : TrafficAction → Option Incident
  | .wait ms => some (.wait ms)
  | .pass wallClock => some (.pass wallClock)
  | .call _ => none
  | .resume _ => none
  | .finish _ => none

namespace Traffic

variable {s : Setting} {t : Traffic}

/-- What has happened so far beside the calls. -/
def beside (t : Traffic) : List Incident :=
  t.trace.filter fun i ↦ !i.isCall

theorem beside_settle (t : Traffic) (a : Arrival) (checked : Checked) :
    (t.settle a checked).beside = t.beside := by
  rw [settle, beside, List.filter_append]
  exact List.append_nil _

theorem beside_answer (t : Traffic) (id : LookupId) (config : Except StoreError GuildConfig) :
    (t.answer id config).beside = t.beside := by
  rw [answer]
  split
  · exact beside_settle _ _ _
  · rfl

theorem beside_step (s : Setting) (t : Traffic) (action : TrafficAction) :
    (t.step s action).beside = t.beside ++ action.beside?.toList := by
  cases action with
  | call a =>
    rw [step, TrafficAction.beside?, Option.toList_none, List.append_nil]
    split
    · exact beside_settle _ _ _
    · split
      · exact beside_settle _ _ _
      · rfl
  | resume id =>
    rw [step, TrafficAction.beside?, Option.toList_none, List.append_nil]
    split
    · split
      · exact beside_answer _ _ _
      · rfl
    · rfl
  | finish id =>
    rw [step, TrafficAction.beside?, Option.toList_none, List.append_nil]
    split
    · exact beside_answer _ _ _
    · rfl
  | wait ms => exact List.filter_append _ _
  | pass wallClock => exact List.filter_append _ _

/-- Time passes, and passes are made, as the actions say. -/
theorem beside_run (s : Setting) (t : Traffic) (actions : List TrafficAction) :
    (t.run s actions).beside = t.beside ++ actions.filterMap TrafficAction.beside? := by
  induction actions generalizing t with
  | nil => exact (List.append_nil _).symm
  | cons action actions ih =>
    have hrun : (t.run s (action :: actions)).beside = ((t.step s action).run s actions).beside :=
      rfl
    rw [hrun, ih, beside_step, List.append_assoc]
    cases haction : action.beside? with
    | none => rw [List.filterMap_cons_none haction, Option.toList_none, List.nil_append]
    | some i => rw [List.filterMap_cons_some haction, Option.toList_some, List.singleton_append]

/-! ## Isolation -/

/-- Whatever is in the store, whatever the limits of the cache, and whatever was recorded and
counted before: checks of messages of any guilds, mixed with time that passes and with passes of the
maintenance, come out for the channels of a guild as they do when the calls for the channels of all
other guilds are left out. The verdicts with their decisions, the calls of the punishments, the
reports, the counts of the guild and its windows are the same.

And calls that overlap, each of them waiting for the store if it has to, come out as if they were
made one after the other, each at the moment at which its message is judged, time and the passes
being the same; so with them too it makes no difference for a guild to leave the others out. -/
theorem isolated_run (s : Setting) (guild : GuildId) (ttl limit now : Nat) (engine : Engine) :
    (∀ incidents : List Incident,
      let all := (Watch.start ttl limit now engine).run s incidents
      let own := (Watch.start ttl limit now engine).run s (incidents.filter (·.concerns guild))
      own.rulings = all.rulings.filter (·.arrival.concerns guild) ∧
        own.engine.AgreesFor guild all.engine) ∧
    (∀ actions : List TrafficAction,
      let all := (start ttl limit now engine).run s actions
      let own := (Watch.start ttl limit now engine).run s (all.trace.filter (·.concerns guild))
      own.rulings = all.rulings.filter (·.arrival.concerns guild) ∧
        own.engine.AgreesFor guild all.engine ∧
        all.trace.filter (fun i ↦ !i.isCall) = actions.filterMap TrafficAction.beside?) := by
  constructor
  · intro incidents all own
    have hagrees := Watch.agreesFor_run s guild ttl limit now engine incidents
    exact ⟨hagrees.rulings_eq, hagrees.engine⟩
  · intro actions all own
    have horder := inOrder_run s ttl limit now engine actions
    have hagrees := Watch.agreesFor_run s guild ttl limit now engine all.trace
    refine ⟨?_, ?_, beside_run s _ actions⟩
    · rw [← horder.rulings_eq]
      exact hagrees.rulings_eq
    · rw [← horder.engine_eq]
      exact hagrees.engine

end Traffic

end GuildModeration
