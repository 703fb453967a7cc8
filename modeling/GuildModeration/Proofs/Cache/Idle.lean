import GuildModeration.Cache.Timeline
import GuildModeration.Proofs.Cache.Maintenance

/-!
# A cache without maintenance

The maintenance task works only while somebody waits or the clock moves, and only if it was started
and has not ended. Apart from it nothing that happens to a timeline touches the task or its queue, so
that as long as the task does not run, getting a policy leaves it alone.
-/

namespace GuildModeration

namespace Timeline

/-! ## Lookups leave the task alone -/

/-- The clock and the task are as they were. -/
structure SameTask (t t' : Timeline) : Prop where
  now_eq : t'.now = t.now
  maintenance_eq : t'.cache.maintenance = t.cache.maintenance

variable {t t' t'' : Timeline}

theorem SameTask.refl (t : Timeline) : t.SameTask t :=
  ⟨rfl, rfl⟩

theorem SameTask.trans (h : t.SameTask t') (h' : t'.SameTask t'') : t.SameTask t'' :=
  ⟨h'.now_eq.trans h.now_eq, h'.maintenance_eq.trans h.maintenance_eq⟩

theorem sameTask_finishLoad (t : Timeline) (l : Lookup) : t.SameTask (t.finishLoad l) :=
  ⟨rfl, rfl⟩

theorem sameTask_goOn (t : Timeline) (l : Lookup) : t.SameTask (t.goOn l) := by
  rw [goOn]
  split
  · exact ⟨rfl, rfl⟩
  · dsimp only
    split <;> exact ⟨rfl, rfl⟩

theorem sameTask_runGranted (fuel : Nat) (t : Timeline) : t.SameTask (runGranted fuel t) := by
  induction fuel generalizing t with
  | zero => exact .refl t
  | succ fuel ih =>
    rw [runGranted]
    split
    · exact (sameTask_goOn t _).trans (ih _)
    · exact .refl t

theorem sameTask_runLookups (t : Timeline) : t.SameTask t.runLookups :=
  sameTask_runGranted _ t

theorem sameTask_startGet (t : Timeline) (guild : GuildId) : t.SameTask (t.startGet guild).2 := by
  rw [startGet]
  split
  · exact ⟨rfl, rfl⟩
  · next shared _ =>
    have hshared : t.SameTask (t.withShared shared) := ⟨rfl, rfl⟩
    exact hshared.trans (sameTask_runLookups _)

theorem sameTask_endLoads (t : Timeline) : t.SameTask t.endLoads := by
  have hfoldl : ∀ (due : List PendingLoad) (t : Timeline),
      t.SameTask (due.foldl (fun t p ↦ t.finishLoad p.lookup) t) := by
    intro due
    induction due with
    | nil => exact SameTask.refl
    | cons p due ih => exact fun t ↦ (sameTask_finishLoad t p.lookup).trans (ih _)
  have hrest : t.SameTask { t with loads := t.loads.filter fun p ↦ decide (t.now < p.due) } :=
    ⟨rfl, rfl⟩
  exact (hrest.trans (hfoldl _ _)).trans (sameTask_runLookups _)

/-! ## The task is not at work -/

theorem isIdle_of_maintenance_eq (h : t.cache.IsIdle)
    (heq : t'.cache.maintenance = t.cache.maintenance) : t'.cache.IsIdle := by
  rw [MaintainedCache.IsIdle, heq]
  exact h

theorem settle_maintenance (h : t.cache.IsIdle) :
    t.settle.cache.maintenance = t.cache.maintenance := by
  have heq := (sameTask_endLoads t).maintenance_eq
  have hends := isIdle_of_maintenance_eq h heq
  rw [settle, maintain, MaintainedCache.serve_of_isIdle hends,
    MaintainedCache.catchUp_of_isIdle hends]
  exact heq

theorem moveTo_maintenance (h : t.cache.IsIdle) (moment : Nat) :
    (t.moveTo moment).cache.maintenance = t.cache.maintenance := by
  rw [moveTo, MaintainedCache.duePasses_of_isIdle h, ite_self]
  rfl

theorem awaitLoad_maintenance (h : t.cache.IsIdle) :
    t.awaitLoad.cache.maintenance = t.cache.maintenance := by
  rw [awaitLoad]
  split
  · next due _ =>
    have hmove := moveTo_maintenance h due
    rw [settle_maintenance (isIdle_of_maintenance_eq h hmove), hmove]
  · rfl

theorem awaitWithin_maintenance (id : LookupId) (fuel : Nat) (h : t.cache.IsIdle) :
    (awaitWithin id fuel t).cache.maintenance = t.cache.maintenance := by
  induction fuel generalizing t with
  | zero => rfl
  | succ fuel ih =>
    rw [awaitWithin]
    split
    · rfl
    · have hawait := awaitLoad_maintenance h
      rw [ih (isIdle_of_maintenance_eq h hawait), hawait]

/-- Whoever gets a policy leaves a task that is not at work alone. -/
theorem get_maintenance (h : t.cache.IsIdle) (guild : GuildId) :
    (t.get guild).2.cache.maintenance = t.cache.maintenance := by
  have hstart := (sameTask_startGet t guild).maintenance_eq
  exact (awaitWithin_maintenance _ _ (isIdle_of_maintenance_eq h hstart)).trans hstart

end Timeline

end GuildModeration
