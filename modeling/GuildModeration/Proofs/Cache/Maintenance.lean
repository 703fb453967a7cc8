import GuildModeration.Cache.Maintenance

/-!
# Steps of the maintenance

What the maintenance task does to the cache, and where it is afterwards. A task that is not at work
does nothing. One that is at work takes policies out and reaps, and once it has made the passes that
are due its next pass is still to come.
-/

namespace GuildModeration

namespace MaintainedCache

variable {m : MaintainedCache}

/-! ## A task that is not at work -/

/-- The task is not at work. -/
def IsIdle (m : MaintainedCache) : Prop :=
  ∀ interval nextPass, m.maintenance.phase ≠ .running interval nextPass

theorem isIdle_or_running (m : MaintainedCache) :
    m.IsIdle ∨ ∃ interval nextPass, m.maintenance.phase = .running interval nextPass := by
  by_cases h : ∃ interval nextPass, m.maintenance.phase = .running interval nextPass
  · exact Or.inr h
  · exact Or.inl fun interval nextPass hphase ↦ h ⟨interval, nextPass, hphase⟩

theorem receive_of_isIdle (h : m.IsIdle) : m.receive = m := by
  rw [receive]
  split
  · next interval nextPass hphase => exact absurd hphase (h interval nextPass)
  · rfl

theorem duePasses_of_isIdle (h : m.IsIdle) (now : Nat) : m.duePasses now = 0 := by
  rw [duePasses]
  split
  · next interval nextPass hphase => exact absurd hphase (h interval nextPass)
  · rfl

theorem pass_of_isIdle (h : m.IsIdle) (now : Nat) : m.pass now = m := by
  rw [pass]
  split
  · next interval nextPass hphase => exact absurd hphase (h interval nextPass)
  · rfl

theorem serve_of_isIdle (h : m.IsIdle) : m.serve = m := by
  rw [serve]
  induction List.range (m.maintenance.queue.pending.length + 1) with
  | nil => rfl
  | cons _ ns ih => rw [List.foldl_cons, receive_of_isIdle h, ih]

theorem catchUp_of_isIdle (h : m.IsIdle) (now : Nat) : m.catchUp now = m := by
  rw [catchUp, duePasses_of_isIdle h, List.range_zero, List.foldl_nil]

/-! ## A task at work -/

/-- The task, if it is at work, lets time go by between its passes. -/
def Paced (m : MaintainedCache) : Prop :=
  ∀ interval nextPass, m.maintenance.phase = .running interval nextPass → 0 < interval

/-- None of its passes is late. -/
def OnTime (m : MaintainedCache) (now : Nat) : Prop :=
  ∀ interval nextPass, m.maintenance.phase = .running interval nextPass → now ≤ nextPass

theorem paced_of_isIdle (h : m.IsIdle) : m.Paced :=
  fun interval nextPass hphase ↦ absurd hphase (h interval nextPass)

theorem onTime_of_isIdle (h : m.IsIdle) (now : Nat) : m.OnTime now :=
  fun interval nextPass hphase ↦ absurd hphase (h interval nextPass)

theorem paced_of_phase {interval nextPass : Nat}
    (h : m.maintenance.phase = .running interval nextPass) (hpos : 0 < interval) : m.Paced := by
  intro i n hphase
  rw [h] at hphase
  cases hphase
  exact hpos

theorem onTime_of_phase {interval nextPass now : Nat}
    (h : m.maintenance.phase = .running interval nextPass) (hle : now ≤ nextPass) :
    m.OnTime now := by
  intro i n hphase
  rw [h] at hphase
  cases hphase
  exact hle

theorem start_shared (m : MaintainedCache) (now interval : Nat) :
    (m.start now interval).shared = m.shared := by
  rw [start]
  split
  · rfl
  · split <;> rfl

/-- A task that has just been started makes its first pass now. -/
theorem Paced.start (h : m.Paced) {now : Nat} (ht : m.OnTime now) (interval : Nat) :
    (m.start now interval).Paced ∧ (m.start now interval).OnTime now := by
  rw [MaintainedCache.start]
  split
  · exact ⟨h, ht⟩
  · split
    · constructor
      · exact paced_of_isIdle fun i n hphase ↦ by cases hphase
      · exact onTime_of_isIdle (fun i n hphase ↦ by cases hphase) now
    · next hinterval =>
      exact ⟨paced_of_phase rfl (Nat.pos_of_ne_zero hinterval),
        onTime_of_phase rfl (Nat.le_refl now)⟩

/-- One step of the task at its queue takes out a guild, or all of them, or nothing. -/
theorem receive_shared (m : MaintainedCache) :
    m.receive.shared = m.shared ∨ (∃ guild, m.receive.shared = m.shared.invalidate guild) ∨
      m.receive.shared = m.shared.invalidateAll := by
  rw [receive]
  split
  · split
    · split
      · exact Or.inl rfl
      · exact Or.inl rfl
    · next request rest _ =>
      cases request with
      | invalidate guild => exact Or.inr (Or.inl ⟨guild, rfl⟩)
      | invalidateAll => exact Or.inr (Or.inr rfl)
      | shutdown => exact Or.inl rfl
  · exact Or.inl rfl

/-- A task that goes on is where it was. -/
theorem receive_phase {interval nextPass : Nat}
    (h : m.receive.maintenance.phase = .running interval nextPass) :
    m.maintenance.phase = .running interval nextPass := by
  rw [receive] at h
  split at h
  · split at h
    · split at h
      · exact h
      · cases h
    · next request rest _ =>
      cases request with
      | invalidate guild => exact h
      | invalidateAll => exact h
      | shutdown => cases h
  · exact h

theorem Paced.serve (h : m.Paced) : m.serve.Paced := by
  rw [MaintainedCache.serve]
  induction List.range (m.maintenance.queue.pending.length + 1) generalizing m with
  | nil => exact h
  | cons _ ns ih =>
    exact ih fun interval nextPass hphase ↦ h interval nextPass (receive_phase hphase)

theorem pass_phase {interval nextPass : Nat}
    (h : m.maintenance.phase = .running interval nextPass) (now : Nat) :
    (m.pass now).maintenance.phase = .running interval (nextPass + interval) := by
  rw [pass, h]

theorem pass_shared {interval nextPass : Nat}
    (h : m.maintenance.phase = .running interval nextPass) (now : Nat) :
    (m.pass now).shared = (m.shared.reap now).2 := by
  rw [pass, h]

/-- Passes follow each other at the interval, whenever they are made. -/
theorem passes_phase (time : MaintainedCache → Nat) (ns : List Nat) {interval nextPass : Nat}
    (h : m.maintenance.phase = .running interval nextPass) :
    (ns.foldl (fun m _ ↦ m.pass (time m)) m).maintenance.phase =
      .running interval (nextPass + ns.length * interval) := by
  -- each pass moves the next one on, so its time is general
  induction ns generalizing m nextPass with
  | nil => rw [List.foldl_nil, List.length_nil, Nat.zero_mul, Nat.add_zero, h]
  | cons n ns ih =>
    rw [List.foldl_cons, ih (pass_phase h _), List.length_cons, Nat.succ_mul, Nat.add_assoc,
      Nat.add_comm interval]

/-- The passes that are due lead past the moment at which they are due. -/
theorem lt_after_duePasses {interval nextPass : Nat} (hpos : 0 < interval)
    (h : m.maintenance.phase = .running interval nextPass) (now : Nat) :
    now < nextPass + m.duePasses now * interval := by
  rw [duePasses, h]
  dsimp only
  split
  · omega
  · -- one pass more than the whole intervals that have gone by
    have hlt := Nat.lt_mul_div_succ (now - nextPass) hpos
    rw [Nat.mul_comm] at hlt
    omega

/-- Each of the passes that are due is due by then. -/
theorem due_of_lt_duePasses {interval nextPass : Nat}
    (h : m.maintenance.phase = .running interval nextPass) {now k : Nat}
    (hk : k < m.duePasses now) : nextPass + k * interval ≤ now := by
  rw [duePasses, h] at hk
  dsimp only at hk
  split at hk
  · omega
  · have hle := Nat.mul_le_mul_right interval (Nat.le_of_lt_succ hk)
    have hdiv := Nat.div_mul_le_self (now - nextPass) interval
    omega

theorem onTime_catchUp (h : m.Paced) (now : Nat) :
    (m.catchUp now).Paced ∧ (m.catchUp now).OnTime now := by
  obtain hidle | ⟨interval, nextPass, hphase⟩ := m.isIdle_or_running
  · rw [catchUp_of_isIdle hidle]
    exact ⟨h, onTime_of_isIdle hidle now⟩
  · have hpos := h interval nextPass hphase
    have hpasses : (m.catchUp now).maintenance.phase = .running interval _ :=
      passes_phase (fun _ ↦ now) (List.range (m.duePasses now)) hphase
    rw [List.length_range] at hpasses
    exact ⟨paced_of_phase hpasses hpos,
      onTime_of_phase hpasses (Nat.le_of_lt (lt_after_duePasses hpos hphase now))⟩

end MaintainedCache

end GuildModeration
