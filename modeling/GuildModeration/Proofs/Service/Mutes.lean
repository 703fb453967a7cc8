import Mathlib.Data.List.Count
import GuildModeration.Proofs.Text.Decimal
import GuildModeration.Service.Moderation

/-!
# When mutes are taken back

A mute by a role starts a timer of its own, and nothing that happens later stops it or puts it off.
The timer of a mute that ends takes the role away from the member, also when the member has been
muted again in the meantime and that mute is still running. This module runs the service with its
timers: calls are made at any moments and answered in any way, and every timer goes off at most `late`
milliseconds after it has run out. A mute counts from the moment at which the service has carried it
out.

`ServiceRun.Accounted` is what every run keeps: the timers that have gone off and those that have not
are those of the mutes, one for each. It says when no mute of a course of mutes is ever cut short.
For the other direction a run is built in which all other timers go off at once and one is held back
for as long as it may be late.
-/

namespace GuildModeration.Service

open GuildModeration.Punishment

/-! ## The address of a role -/

/-- A text is known up to its first slash and behind it. -/
theorem append_slash_inj {cs cs' rest rest' : List Char} (h : '/' ∉ cs) (h' : '/' ∉ cs') :
    cs ++ '/' :: rest = cs' ++ '/' :: rest' ↔ cs = cs' ∧ rest = rest' := by
  induction cs generalizing cs' with
  | nil =>
    cases cs' with
    | nil => simp
    | cons d ds => simp [List.ne_of_not_mem_cons h']
  | cons c cs ih =>
    cases cs' with
    | nil => simp [(List.ne_of_not_mem_cons h).symm]
    | cons d ds =>
      have hrest := ih (List.not_mem_of_not_mem_cons h) (List.not_mem_of_not_mem_cons h')
      rw [List.cons_append, List.cons_append, List.cons.injEq, List.cons.injEq, hrest, and_assoc]

theorem slash_notMem_repr (n : Nat) : '/' ∉ n.repr.toList := fun hmem ↦
  Text.ne_of_mem_repr hmem (by decide) rfl

theorem toList_rolePath (guild : GuildId) (user : UserId) (role : RoleId) :
    (rolePath guild user role).toList = "/api/v10/guilds/".toList ++
      (guild.toNat.repr.toList ++ '/' :: ("members/".toList ++
        (user.toNat.repr.toList ++ '/' :: ("roles/".toList ++ role.toNat.repr.toList)))) := by
  simp [rolePath, memberPath, resource, toString]

/-- Every role of every member has an address of its own. -/
theorem rolePath_inj {guild guild' : GuildId} {user user' : UserId} {role role' : RoleId} :
    rolePath guild user role = rolePath guild' user' role' ↔
      guild = guild' ∧ user = user' ∧ role = role' := by
  have hslash := slash_notMem_repr
  rw [← String.toList_inj, toList_rolePath, toList_rolePath, List.append_cancel_left_eq,
    append_slash_inj (hslash _) (hslash _), List.append_cancel_left_eq,
    append_slash_inj (hslash _) (hslash _), List.append_cancel_left_eq, Text.toList_repr_inj,
    Text.toList_repr_inj, Text.toList_repr_inj, UInt64.toNat_inj, UInt64.toNat_inj,
    UInt64.toNat_inj]

/-! ## Runs of the service -/

/-- A minute in milliseconds. -/
def minuteMs : Nat := 60000

/-- A timer with the moment at which it runs out. -/
structure PendingTimer where
  due : Nat
  request : Request
  deriving DecidableEq, Repr

/-- Something that was seen of the service. -/
inductive ServiceEvent where
  /-- A call ended. -/
  | called (c : Call) (outcome : CallOutcome)
  /-- A timer went off, and its request was sent. -/
  | expired (timer : PendingTimer)

/-- Something that can happen to the service. -/
inductive ServiceAction where
  /-- Time passes. -/
  | wait (ms : Nat)
  | call (c : Call) (respond : Request → Reply)
  | expire (timer : PendingTimer)

/-- The service at one moment, and what was seen of it so far, each event with its time and the
newest first. -/
structure ServiceRun where
  now : Nat := 0
  timers : List PendingTimer := []
  history : List (Nat × ServiceEvent) := []

namespace ServiceRun

/-- The timers that a call starts that ends now. -/
def started (r : ServiceRun) (c : Call) (outcome : CallOutcome) : List PendingTimer :=
  (timersOf c outcome).map fun timer ↦ ⟨r.now + timer.minutes * minuteMs, timer.request⟩

/-- Lets an action happen; one that is not possible changes nothing. Time does not pass by a timer
that cannot wait any longer. -/
def step (late : Nat) (r : ServiceRun) : ServiceAction → ServiceRun
  | .wait ms =>
    if ∀ timer ∈ r.timers, r.now + ms ≤ timer.due + late then { r with now := r.now + ms } else r
  | .call c respond =>
    let outcome := (perform respond c).outcome
    { r with
      timers := r.timers ++ r.started c outcome
      history := (r.now, .called c outcome) :: r.history }
  | .expire timer =>
    if timer ∈ r.timers ∧ timer.due ≤ r.now then
      { r with timers := r.timers.erase timer, history := (r.now, .expired timer) :: r.history }
    else r

/-- Lets actions happen one after the other. -/
def run (late : Nat) (r : ServiceRun) (actions : List ServiceAction) : ServiceRun :=
  actions.foldl (step late) r

end ServiceRun

/-! ## Mutes by a role -/

/-- A mute by a role that was carried out, with its moment. -/
structure RoleMute where
  since : Nat
  guild : GuildId
  user : UserId
  role : RoleId
  minutes : UInt32
  deriving DecidableEq, Repr

namespace RoleMute

/-- The first moment at which the mute no longer runs. -/
def ends (m : RoleMute) : Nat :=
  m.since + m.minutes.toNat * minuteMs

/-- The mutes give the same role to the same member. -/
def IsLike (m m' : RoleMute) : Prop :=
  m.guild = m'.guild ∧ m.user = m'.user ∧ m.role = m'.role

instance (m m' : RoleMute) : Decidable (m.IsLike m') :=
  inferInstanceAs (Decidable (_ ∧ _ ∧ _))

/-- The timer of the mute. -/
def timer (m : RoleMute) : PendingTimer where
  due := m.ends
  request :=
    { method := .delete, path := rolePath m.guild m.user m.role
      reason := "Automoderator: mute expired" }

/-- The mute that a call makes if it is carried out. One without length stays, and is none here. -/
def ofCall? (since : Nat) : Call → Option RoleMute
  | .mute guild user (.role role) minutes _ =>
    if minutes = 0 then none else some { since, guild, user, role, minutes }
  | _ => none

/-- The mute that an event shows. -/
def ofEvent? : Nat × ServiceEvent → Option RoleMute
  | (since, .called c outcome) => if outcome = .succeeded then ofCall? since c else none
  | _ => none

end RoleMute

/-- The request takes the role of the mute away from its member. -/
def Request.Removes (q : Request) (m : RoleMute) : Prop :=
  q.method = .delete ∧ q.path = rolePath m.guild m.user m.role

theorem RoleMute.removes_timer_iff {m m' : RoleMute} :
    m.timer.request.Removes m' ↔ m.IsLike m' := by
  rw [Request.Removes, RoleMute.timer, rolePath_inj, RoleMute.IsLike]
  exact and_iff_right rfl

namespace ServiceRun

/-- The mutes by a role that were carried out, in their order. -/
def mutes (r : ServiceRun) : List RoleMute :=
  (r.history.filterMap RoleMute.ofEvent?).reverse

/-- The timer that an event shows to have gone off, with the moment. -/
def expired? : Nat × ServiceEvent → Option (Nat × PendingTimer)
  | (moment, .expired timer) => some (moment, timer)
  | _ => none

/-- The timers that have gone off, with the moments, the last one first. -/
def expired (r : ServiceRun) : List (Nat × PendingTimer) :=
  r.history.filterMap expired?

/-- No role was taken away while a mute that had given it was still running. -/
def SparesMutes (r : ServiceRun) : Prop :=
  ∀ x ∈ r.expired, ∀ m ∈ r.mutes, x.2.request.Removes m → m.since ≤ x.1 → m.ends ≤ x.1

/-! ## What every run keeps -/

/-- Each mute has one timer, which has gone off in time or is still to. -/
structure Accounted (late : Nat) (r : ServiceRun) : Prop where
  perm : (r.mutes.map RoleMute.timer).Perm (r.timers ++ r.expired.map (·.2))
  timely : ∀ x ∈ r.expired, x.2.due ≤ x.1 ∧ x.1 ≤ x.2.due + late
  waiting : ∀ timer ∈ r.timers, r.now ≤ timer.due + late

variable {late : Nat} {r : ServiceRun}

/-- A call starts the timer of the mute that it shows, if it shows one. -/
theorem started_eq (r : ServiceRun) (c : Call) (outcome : CallOutcome) :
    r.started c outcome =
      ((RoleMute.ofEvent? (r.now, .called c outcome)).map RoleMute.timer).toList := by
  rw [started, timersOf, RoleMute.ofEvent?]
  by_cases hsucceeded : outcome = .succeeded
  · rw [if_pos hsucceeded, if_pos hsucceeded]
    cases c with
    | mute guild user mechanism minutes reason =>
      cases mechanism with
      | role role =>
        rw [unmute?, RoleMute.ofCall?]
        by_cases hminutes : minutes = 0
        · rw [if_pos hminutes, if_pos hminutes]
          rfl
        · rw [if_neg hminutes, if_neg hminutes]
          rfl
      | _ => rfl
    | _ => rfl
  · rw [if_neg hsucceeded, if_neg hsucceeded]
    rfl

theorem mutes_call (late : Nat) (r : ServiceRun) (c : Call) (respond : Request → Reply) :
    (r.step late (.call c respond)).mutes =
      r.mutes ++ (RoleMute.ofEvent? (r.now, .called c (perform respond c).outcome)).toList := by
  rw [mutes, step, List.filterMap_cons]
  cases RoleMute.ofEvent? (r.now, .called c (perform respond c).outcome) with
  | none => simp [mutes]
  | some m => simp [mutes]

theorem Accounted.wait (h : r.Accounted late) (ms : Nat) :
    (r.step late (.wait ms)).Accounted late := by
  rw [step]
  split
  · next hwaiting => exact { h with waiting := hwaiting }
  · exact h

theorem Accounted.call (h : r.Accounted late) (c : Call) (respond : Request → Reply) :
    (r.step late (.call c respond)).Accounted late where
  perm := by
    rw [mutes_call, List.map_append, ← Option.toList_map, ← started_eq]
    have hperm := h.perm.append_right (r.started c (perform respond c).outcome)
    rw [List.append_assoc] at hperm
    refine hperm.trans ?_
    exact (List.perm_append_comm.append_left r.timers).trans (by rw [← List.append_assoc]; rfl)
  timely := h.timely
  waiting timer hmem := by
    rcases List.mem_append.mp hmem with hold | hnew
    · exact h.waiting timer hold
    · obtain ⟨t, -, rfl⟩ := List.mem_map.mp hnew
      exact Nat.le_trans (Nat.le_add_right _ _) (Nat.le_add_right _ _)

theorem Accounted.expire (h : r.Accounted late) (timer : PendingTimer) :
    (r.step late (.expire timer)).Accounted late := by
  rw [step]
  split
  · next hdue =>
    exact
      { perm := by
          refine h.perm.trans (((List.perm_cons_erase hdue.1).append_right _).trans ?_)
          exact List.perm_middle.symm
        timely := by
          intro x hx
          rcases List.mem_cons.mp hx with rfl | hold
          · exact ⟨hdue.2, h.waiting timer hdue.1⟩
          · exact h.timely x hold
        waiting := fun t ht ↦ h.waiting t (List.mem_of_mem_erase ht) }
  · exact h

theorem Accounted.step (h : r.Accounted late) (a : ServiceAction) :
    (r.step late a).Accounted late := by
  cases a with
  | wait ms => exact h.wait ms
  | call c respond => exact h.call c respond
  | expire timer => exact h.expire timer

theorem Accounted.run (h : r.Accounted late) (actions : List ServiceAction) :
    (r.run late actions).Accounted late := by
  induction actions generalizing r with
  | nil => exact h
  | cons a actions ih => exact ih (h.step a)

theorem accounted_new (late : Nat) : ({} : ServiceRun).Accounted late where
  perm := .refl _
  timely := nofun
  waiting := nofun

/-- A timer that goes off is the one of a mute that has run out itself. -/
theorem Accounted.exists_mute (h : r.Accounted late) {x : Nat × PendingTimer}
    (hx : x ∈ r.expired) : ∃ m ∈ r.mutes, m.timer = x.2 ∧ m.ends ≤ x.1 ∧ x.1 ≤ m.ends + late := by
  have hmem : x.2 ∈ r.mutes.map RoleMute.timer :=
    h.perm.mem_iff.mpr (List.mem_append_right _ (List.mem_map_of_mem hx))
  obtain ⟨m, hm, htimer⟩ := List.mem_map.mp hmem
  have htimely := h.timely x hx
  rw [← htimer] at htimely
  exact ⟨m, hm, htimer, htimely⟩

end ServiceRun

/-! ## Courses of mutes -/

/-- Mutes that can be made one after the other. -/
structure RoleMute.IsCourse (mutes : List RoleMute) : Prop where
  chronological : mutes.Pairwise (·.since ≤ ·.since)
  guild_ne : ∀ m ∈ mutes, m.guild ≠ 0
  user_ne : ∀ m ∈ mutes, m.user ≠ 0
  role_ne : ∀ m ∈ mutes, m.role ≠ 0
  minutes_ne : ∀ m ∈ mutes, m.minutes ≠ 0

theorem RoleMute.since_le_ends (m : RoleMute) : m.since ≤ m.ends :=
  Nat.le_add_right _ _

theorem RoleMute.IsCourse.since_lt_ends {mutes : List RoleMute} (h : IsCourse mutes)
    {m : RoleMute} (hm : m ∈ mutes) : m.since < m.ends := by
  have hminutes : m.minutes.toNat ≠ 0 := fun hzero ↦ h.minutes_ne m hm (UInt32.toNat_inj.mp hzero)
  exact Nat.lt_add_of_pos_right (Nat.mul_pos (Nat.pos_of_ne_zero hminutes) (by decide))

/-- A call that makes the mute. -/
def RoleMute.action (m : RoleMute) : ServiceAction :=
  .call (.mute m.guild m.user (.role m.role) m.minutes "") fun _ ↦ .answered 204 0 ""

namespace ServiceRun

variable {late : Nat} {r : ServiceRun} {mutes : List RoleMute} {a : RoleMute}

theorem step_action (late : Nat) {m : RoleMute} (hcourse : RoleMute.IsCourse mutes) (hm : m ∈ mutes)
    (hsince : m.since = r.now) :
    (r.step late m.action).timers = r.timers ++ [m.timer] ∧
      (r.step late m.action).mutes = r.mutes ++ [m] := by
  have hsucceeded : (perform (fun _ ↦ .answered 204 0 "")
      (.mute m.guild m.user (.role m.role) m.minutes "")).outcome = .succeeded := by
    simp [perform, neededIds, firstZero?, requestOf, Reply.isSuccess, hcourse.guild_ne m hm,
      hcourse.user_ne m hm, hcourse.role_ne m hm]
  have hevent : RoleMute.ofEvent? (r.now, .called
      (.mute m.guild m.user (.role m.role) m.minutes "") .succeeded) = some m := by
    rw [RoleMute.ofEvent?, if_pos rfl, RoleMute.ofCall?, if_neg (hcourse.minutes_ne m hm), ← hsince]
  constructor
  · rw [RoleMute.action, step, started_eq, hsucceeded, hevent]
    rfl
  · rw [RoleMute.action, mutes_call, hsucceeded, hevent]
    rfl

/-- The mutes of one moment are made one after the other. -/
theorem run_action (late : Nat) (r : ServiceRun) (hcourse : RoleMute.IsCourse mutes)
    {ms : List RoleMute} (hms : ms ⊆ mutes) (hsince : ∀ m ∈ ms, m.since = r.now) :
    (r.run late (ms.map RoleMute.action)).now = r.now ∧
      (r.run late (ms.map RoleMute.action)).timers = r.timers ++ ms.map RoleMute.timer ∧
      (r.run late (ms.map RoleMute.action)).mutes = r.mutes ++ ms := by
  induction ms generalizing r with
  | nil => simp [run]
  | cons m ms ih =>
    obtain ⟨hm, hrest⟩ := List.cons_subset.mp hms
    obtain ⟨hnow, hlater⟩ := List.forall_mem_cons.mp hsince
    obtain ⟨htimers, hmutes⟩ := step_action late hcourse hm hnow
    obtain ⟨hnow', htimers', hmutes'⟩ := ih (r.step late m.action) hrest hlater
    rw [htimers, List.append_assoc] at htimers'
    rw [hmutes, List.append_assoc] at hmutes'
    exact ⟨hnow', htimers', hmutes'⟩

theorem step_expire (late : Nat) {timer : PendingTimer} (hdue : timer.due ≤ r.now) :
    (r.step late (.expire timer)).now = r.now ∧
      (r.step late (.expire timer)).timers = r.timers.erase timer ∧
      (r.step late (.expire timer)).mutes = r.mutes := by
  rw [step]
  by_cases hmem : timer ∈ r.timers
  · rw [if_pos ⟨hmem, hdue⟩]
    exact ⟨rfl, rfl, rfl⟩
  · rw [if_neg fun h ↦ hmem h.1, List.erase_of_not_mem hmem]
    exact ⟨rfl, rfl, rfl⟩

/-- Timers that have run out go off one after the other. -/
theorem run_expire (late : Nat) (r : ServiceRun) {timers : List PendingTimer}
    (hdue : ∀ timer ∈ timers, timer.due ≤ r.now) :
    (r.run late (timers.map .expire)).now = r.now ∧
      (r.run late (timers.map .expire)).timers = r.timers.diff timers ∧
      (r.run late (timers.map .expire)).mutes = r.mutes := by
  induction timers generalizing r with
  | nil => simp [run]
  | cons timer timers ih =>
    obtain ⟨hfirst, hrest⟩ := List.forall_mem_cons.mp hdue
    obtain ⟨hnow, htimers, hmutes⟩ := step_expire late hfirst
    obtain ⟨hnow', htimers', hmutes'⟩ := ih (r.step late (.expire timer)) (hnow ▸ hrest)
    rw [List.diff_cons, ← htimers]
    exact ⟨hnow'.trans hnow, htimers', hmutes'.trans hmutes⟩

/-! ## A run in which one timer is late -/

/-- All mutes of the course are made that are to be made by now, and all timers have gone off that
have run out, but for one that is held back. -/
structure HoldsBack (mutes : List RoleMute) (a : RoleMute) (r : ServiceRun) : Prop where
  mutes_eq : r.mutes = mutes.filter (·.since ≤ r.now)
  held : a.since ≤ r.now → a.timer ∈ r.timers
  others : ∀ timer ∈ r.timers, timer.due ≤ r.now → timer = a.timer

/-- A course is cut in two at a moment. -/
theorem filter_lt_append_filter_le (h : mutes.Pairwise (·.since ≤ ·.since)) (moment : Nat) :
    mutes.filter (·.since < moment) ++ mutes.filter (moment ≤ ·.since) = mutes := by
  induction h with
  | nil => rfl
  | @cons m mutes hle _ ih =>
    by_cases hlt : m.since < moment
    · rw [List.filter_cons_of_pos (by simpa using hlt),
        List.filter_cons_of_neg (by simpa using hlt), List.cons_append, ih]
    · -- no mute that comes later is of an earlier moment
      have hge : ∀ m' ∈ m :: mutes, moment ≤ m'.since := by
        refine List.forall_mem_cons.mpr ⟨Nat.le_of_not_lt hlt, fun m' hm' ↦ ?_⟩
        exact Nat.le_trans (Nat.le_of_not_lt hlt) (hle m' hm')
      rw [List.filter_eq_nil_iff.mpr fun m' hm' ↦ by simpa using hge m' hm', List.nil_append,
        List.filter_eq_self]
      exact fun m' hm' ↦ decide_eq_true (hge m' hm')

theorem prefix_filter_le (h : mutes.Pairwise (·.since ≤ ·.since)) (moment : Nat) :
    mutes.filter (·.since ≤ moment) <+: mutes := by
  have hcut := filter_lt_append_filter_le h (moment + 1)
  simp only [Nat.lt_succ_iff] at hcut
  exact ⟨_, hcut⟩

theorem filter_lt_append_filter_eq (h : mutes.Pairwise (·.since ≤ ·.since)) (moment : Nat) :
    mutes.filter (·.since < moment) ++ mutes.filter (·.since = moment) =
      mutes.filter (·.since ≤ moment) := by
  rw [← filter_lt_append_filter_le (h.filter (·.since ≤ moment)) moment, List.filter_filter,
    List.filter_filter]
  congr 1 <;> refine List.filter_congr fun m _ ↦ ?_
  · rw [← Bool.decide_and, decide_eq_decide]
    omega
  · rw [← Bool.decide_and, decide_eq_decide]
    omega

theorem mem_diff_filter_iff {timers : List PendingTimer} {p : PendingTimer → Bool}
    {timer : PendingTimer} :
    timer ∈ timers.diff (timers.filter p) ↔ timer ∈ timers ∧ p timer = false := by
  rw [← List.count_pos_iff, ← List.count_pos_iff, List.count_diff]
  cases hp : p timer with
  | true =>
    rw [List.count_filter hp, Nat.sub_self]
    simp
  | false =>
    have hnotMem : timer ∉ timers.filter p := by
      rw [List.mem_filter, hp]
      exact fun h ↦ Bool.false_ne_true h.2
    rw [List.count_eq_zero.mpr hnotMem, Nat.sub_zero]
    exact (and_iff_left rfl).symm

/-- All timers that have run out go off but for one. -/
theorem exists_run_expire (late : Nat) (r : ServiceRun) (keep : PendingTimer) :
    ∃ actions, (r.run late actions).now = r.now ∧ (r.run late actions).mutes = r.mutes ∧
      ∀ timer, timer ∈ (r.run late actions).timers ↔
        timer ∈ r.timers ∧ (timer.due ≤ r.now → timer = keep) := by
  let timers := r.timers.filter fun timer ↦ decide (timer.due ≤ r.now ∧ timer ≠ keep)
  have hdue : ∀ timer ∈ timers, timer.due ≤ r.now := fun timer ht ↦
    (of_decide_eq_true (List.mem_filter.mp ht).2).1
  obtain ⟨hnow, htimers, hmutes⟩ := run_expire late r hdue
  refine ⟨timers.map .expire, hnow, hmutes, fun timer ↦ ?_⟩
  rw [htimers, mem_diff_filter_iff, decide_eq_false_iff_not, not_and, not_not]

/-- What is due now happens now. -/
theorem exists_holdsBack_now (late : Nat) {r : ServiceRun} (hcourse : RoleMute.IsCourse mutes)
    (ha : a ∈ mutes) (hmutes : r.mutes = mutes.filter (·.since < r.now))
    (hheld : a.since < r.now → a.timer ∈ r.timers) :
    ∃ actions, (r.run late actions).now = r.now ∧ HoldsBack mutes a (r.run late actions) := by
  -- the mutes of this moment, and then the timers that have run out
  let ms := mutes.filter (·.since = r.now)
  have hms : ∀ m ∈ ms, m.since = r.now := fun m hm ↦ of_decide_eq_true (List.mem_filter.mp hm).2
  obtain ⟨hnow₁, htimers₁, hmutes₁⟩ :=
    run_action late r hcourse (List.filter_sublist.subset : ms ⊆ mutes) hms
  set r₁ := r.run late (ms.map RoleMute.action)
  obtain ⟨expiries, hnow₂, hmutes₂, htimers₂⟩ := exists_run_expire late r₁ a.timer
  refine ⟨ms.map RoleMute.action ++ expiries, ?_⟩
  rw [run, List.foldl_append]
  change (r₁.run late expiries).now = r.now ∧ HoldsBack mutes a (r₁.run late expiries)
  refine ⟨hnow₂.trans hnow₁, ?_, fun hsince ↦ ?_, fun timer ht hdue ↦ ?_⟩
  · rw [hmutes₂, hmutes₁, hmutes, hnow₂, hnow₁]
    exact filter_lt_append_filter_eq hcourse.chronological r.now
  · rw [hnow₂, hnow₁] at hsince
    refine (htimers₂ a.timer).mpr ⟨?_, fun _ ↦ rfl⟩
    rw [htimers₁]
    rcases Nat.lt_or_eq_of_le hsince with hlt | heq
    · exact List.mem_append_left _ (hheld hlt)
    · exact List.mem_append_right _ (List.mem_map_of_mem
        (List.mem_filter.mpr ⟨ha, decide_eq_true heq⟩))
  · rw [hnow₂] at hdue
    exact ((htimers₂ timer).mp ht).2 hdue

theorem exists_holdsBack (late : Nat) (hcourse : RoleMute.IsCourse mutes) (ha : a ∈ mutes)
    (moment : Nat) (hle : moment ≤ a.ends + late) :
    ∃ actions, (({} : ServiceRun).run late actions).now = moment ∧
      HoldsBack mutes a (({} : ServiceRun).run late actions) := by
  induction moment with
  | zero => exact exists_holdsBack_now late hcourse ha (by simp [ServiceRun.mutes]) nofun
  | succ moment ih =>
    obtain ⟨actions, hnow, hholds⟩ := ih (Nat.le_of_succ_le hle)
    set r := ({} : ServiceRun).run late actions
    have hwait : ∀ timer ∈ r.timers, r.now + 1 ≤ timer.due + late := by
      intro timer ht
      by_cases hdue : timer.due ≤ r.now
      · rw [hholds.others timer ht hdue, hnow]
        exact hle
      · exact Nat.le_add_right_of_le (Nat.lt_of_not_le hdue)
    have hstep : r.step late (.wait 1) = { r with now := r.now + 1 } := by
      rw [step, if_pos hwait]
    have hmutes : r.mutes = mutes.filter (·.since < r.now + 1) := by
      simpa [Nat.lt_succ_iff] using hholds.mutes_eq
    obtain ⟨more, hnow', hholds'⟩ := exists_holdsBack_now (r := { r with now := r.now + 1 }) late
      hcourse ha hmutes fun hlt ↦ hholds.held (Nat.le_of_lt_succ hlt)
    refine ⟨actions ++ .wait 1 :: more, ?_⟩
    rw [run, List.foldl_append, List.foldl_cons]
    change ((r.step late (.wait 1)).run late more).now = _ ∧
      HoldsBack mutes a ((r.step late (.wait 1)).run late more)
    rw [hstep]
    exact ⟨hnow'.trans (congrArg (· + 1) hnow), hholds'⟩

/-- A mute is cut short by the timer of one that ends earlier. -/
theorem exists_cutShort (hcourse : RoleMute.IsCourse mutes) {b : RoleMute} (ha : a ∈ mutes)
    (hb : b ∈ mutes) (hlike : a.IsLike b) (hends : a.ends < b.ends)
    (hle : b.since ≤ a.ends + late) :
    ∃ actions, (({} : ServiceRun).run late actions).mutes <+: mutes ∧
      ¬(({} : ServiceRun).run late actions).SparesMutes := by
  have hsince := a.since_le_ends
  have hruns := hcourse.since_lt_ends hb
  -- the timer of `a` is held back until `b` runs
  obtain ⟨actions, hnow, hholds⟩ := exists_holdsBack late hcourse ha (max a.ends b.since)
    (Nat.max_le.mpr ⟨Nat.le_add_right _ _, hle⟩)
  refine ⟨actions ++ [.expire a.timer], ?_⟩
  rw [run, List.foldl_append]
  change ((run late {} actions).step late (.expire a.timer)).mutes <+: mutes ∧
    ¬((run late {} actions).step late (.expire a.timer)).SparesMutes
  set r := ({} : ServiceRun).run late actions
  have hdue : a.timer ∈ r.timers ∧ a.timer.due ≤ r.now := by
    refine ⟨hholds.held ?_, ?_⟩
    · omega
    · change a.ends ≤ r.now
      omega
  rw [step, if_pos hdue]
  change r.mutes <+: mutes ∧ _
  rw [hholds.mutes_eq]
  refine ⟨prefix_filter_le hcourse.chronological _, fun hspares ↦ ?_⟩
  have hb' : b ∈ r.mutes := by
    rw [hholds.mutes_eq, List.mem_filter]
    exact ⟨hb, decide_eq_true (by omega)⟩
  have hcut := hspares (r.now, a.timer) List.mem_cons_self b hb'
    (RoleMute.removes_timer_iff.mpr hlike)
  omega

theorem Accounted.sparesMutes (h : r.Accounted late) (hsubset : r.mutes ⊆ mutes)
    (hapart : ∀ a ∈ mutes, ∀ b ∈ mutes, a.IsLike b → a.ends < b.ends → a.ends + late < b.since) :
    r.SparesMutes := by
  intro x hx m hm hremoves hsince
  obtain ⟨a, ha, htimer, hdue, hlate⟩ := h.exists_mute hx
  rw [← htimer, RoleMute.removes_timer_iff] at hremoves
  by_contra hcut
  have hlt := hapart a (hsubset ha) m (hsubset hm) hremoves (by omega)
  omega

/-- When mutes last as long as they are meant to. A role is never taken away but by the timer of a
mute that has itself run out, at most `late` milliseconds before. But that mute need not be the only
one: take any course of mutes, with any lengths and for any members. Whatever else happens, and
however late the timers go off, no mute of the course is ever cut short if and only if, of any two
mutes that give the same role to the same member, the one that ends later is not made before the
timer of the other one has gone off for certain. -/
theorem sparesMutes_iff (late : Nat) (hcourse : RoleMute.IsCourse mutes) :
    (∀ actions, let r := ({} : ServiceRun).run late actions
      ∀ x ∈ r.expired, ∃ m ∈ r.mutes, m.timer = x.2 ∧ m.ends ≤ x.1 ∧ x.1 ≤ m.ends + late) ∧
    ((∀ actions, let r := ({} : ServiceRun).run late actions
      r.mutes <+: mutes → r.SparesMutes) ↔
      ∀ a ∈ mutes, ∀ b ∈ mutes, a.IsLike b → a.ends < b.ends → a.ends + late < b.since) := by
  have haccounted := fun actions ↦ (accounted_new late).run actions
  refine ⟨fun actions ↦ fun x hx ↦ (haccounted actions).exists_mute hx, ?_, ?_⟩
  · intro hspares a ha b hb hlike hends
    by_contra hnot
    obtain ⟨actions, hprefix, hcut⟩ :=
      exists_cutShort hcourse ha hb hlike hends (Nat.le_of_not_lt hnot)
    exact hcut (hspares actions hprefix)
  · intro hapart actions r hprefix
    exact (haccounted actions).sparesMutes hprefix.subset hapart

/-- A member is muted for two minutes, and right afterwards for three. -/
def renewed : List RoleMute :=
  [⟨0, 1, 3, 9, 2⟩, ⟨0, 1, 3, 9, 3⟩]

/-- The second mute ends a minute early. -/
theorem not_sparesMutes_renewed :
    ¬(({} : ServiceRun).run 0 (renewed.map RoleMute.action ++
      [.wait 120000, .expire (RoleMute.timer ⟨0, 1, 3, 9, 2⟩)])).SparesMutes := by
  intro hspares
  have hends := hspares (120000, RoleMute.timer ⟨0, 1, 3, 9, 2⟩) List.mem_cons_self
    ⟨0, 1, 3, 9, 3⟩ (by decide) (RoleMute.removes_timer_iff.mpr (by decide)) (by decide)
  revert hends
  decide

/-- The second mute of a member is made a second after the end of the first, and timers go off within
that second. -/
def successive : List RoleMute :=
  [⟨0, 1, 3, 9, 2⟩, ⟨121001, 1, 3, 9, 3⟩]

theorem sparesMutes_successive :
    RoleMute.IsCourse successive ∧ ∀ actions, let r := ({} : ServiceRun).run 1000 actions
      r.mutes <+: successive → r.SparesMutes := by
  have hcourse : RoleMute.IsCourse successive :=
    ⟨by decide, by decide, by decide, by decide, by decide⟩
  exact ⟨hcourse, (sparesMutes_iff 1000 hcourse).2.mpr (by decide)⟩

end ServiceRun

end GuildModeration.Service
