import GuildModeration.Proofs.Evaluation.Flags
import GuildModeration.Proofs.Link.Suffixes

/-!
# Which hosts are flagged after a run of calls

A call writes at one place only, the bare host of its address: it puts it into the set or takes it
out, and every other text stays in the set or out of it (`mem_hosts_call_iff`). So a text is in the
set after a run exactly if the last call that writes there is one that flags (`mem_hosts_run_iff`),
and a host is flagged exactly if this holds of the host or of something that it lies below
(`reputation_run_iff`). What is flagged at another place, be it a parent or a part of the host, is
not touched when a flag is taken back.
-/

namespace GuildModeration

open GuildModeration.Link

namespace FlaggedHosts

variable {calls : List Call} {s : String}

/-- The address of a call. -/
def Call.address : Call → String
  | flag address => address
  | unflag address => address

/-- There are calls whose address has this bare host, and the last of them flags it. -/
def LastFlags (calls : List Call) (s : String) : Prop :=
  ∃ earlier address later, calls = earlier ++ .flag address :: later ∧ bareHost address = s ∧
    ∀ c ∈ later, bareHost c.address ≠ s

/-! ## The last call -/

/-- The call at the end of a run decides about its own bare host. -/
theorem lastFlags_concat_iff {c : Call} :
    LastFlags (calls ++ [c]) s ↔
      bareHost c.address = s ∧ (∃ address, c = .flag address) ∨
        LastFlags calls s ∧ bareHost c.address ≠ s := by
  constructor
  · rintro ⟨earlier, address, later, hcalls, hhost, hlater⟩
    rcases List.eq_nil_or_concat later with rfl | ⟨later, last, rfl⟩
    · obtain ⟨-, hlast⟩ := List.append_inj' hcalls rfl
      obtain rfl := (List.cons.inj hlast).1
      exact Or.inl ⟨hhost, address, rfl⟩
    · rw [List.concat_eq_append, ← List.cons_append, ← List.append_assoc] at hcalls
      obtain ⟨rfl, hlast⟩ := List.append_inj' hcalls rfl
      obtain rfl := (List.cons.inj hlast).1
      rw [List.concat_eq_append, List.forall_mem_append] at hlater
      exact Or.inr ⟨⟨earlier, address, later, rfl, hhost, hlater.1⟩,
        hlater.2 c List.mem_cons_self⟩
  · rintro (⟨hhost, address, rfl⟩ | ⟨⟨earlier, address, later, rfl, hhost, hlater⟩, hc⟩)
    · exact ⟨calls, address, [], rfl, hhost, fun _ hmem ↦ absurd hmem List.not_mem_nil⟩
    · refine ⟨earlier, address, later ++ [c], by simp, hhost, ?_⟩
      exact List.forall_mem_append.mpr ⟨hlater, List.forall_mem_singleton.mpr hc⟩

theorem lastFlags_concat_unflag_iff {address : String} :
    LastFlags (calls ++ [.unflag address]) s ↔ LastFlags calls s ∧ s ≠ bareHost address := by
  rw [lastFlags_concat_iff, or_iff_right, ne_comm (a := s)]
  · rfl
  · rintro ⟨-, flagged, heq⟩
    cases heq

/-! ## The set -/

/-- What a call does to the set. -/
theorem mem_hosts_call_iff {f : FlaggedHosts} {c : Call} :
    s ∈ (f.call c).hosts ↔
      bareHost c.address = s ∧ (∃ address, c = .flag address) ∨
        s ∈ f.hosts ∧ bareHost c.address ≠ s := by
  cases c with
  | flag address =>
    rw [call, flag, List.mem_insert_iff, Call.address, and_iff_left ⟨address, rfl⟩, eq_comm]
    by_cases h : bareHost address = s <;> simp [h]
  | unflag address =>
    rw [call, unflag, List.mem_filter, bne_iff_ne, ne_comm, or_iff_right]
    · rfl
    · rintro ⟨-, flagged, heq⟩
      cases heq

/-- The set after a run. -/
theorem mem_hosts_run_iff : s ∈ (run {} calls).hosts ↔ LastFlags calls s := by
  induction calls using List.reverseRecOn with
  | nil =>
    refine iff_of_false List.not_mem_nil ?_
    rintro ⟨earlier, address, later, hcalls, -⟩
    exact List.append_ne_nil_of_right_ne_nil earlier (List.cons_ne_nil _ _) hcalls.symm
  | append_singleton calls c ih =>
    rw [run, List.foldl_append, List.foldl_cons, List.foldl_nil, mem_hosts_call_iff,
      lastFlags_concat_iff]
    exact or_congr Iff.rfl (and_congr_left' ih)

/-- Being flagged means that something that covers the host is in the set. -/
theorem reputation_eq_iff {f : FlaggedHosts} {host : String} :
    f.reputation host = .ok true ↔ ∃ s, Covers s host ∧ s ∈ f.hosts := by
  rw [reputation, Except.ok.injEq, isFlagged, List.any_eq_true]
  simp only [mem_hostSuffixes_iff, List.contains_iff_mem]

/-- After a run of calls a host is flagged exactly if it, or what follows one of its dots, is the
bare host of some call and the last such call flags it. Taking back a flag takes it from that bare
host, in whatever spelling it was given, and from nothing else. -/
theorem reputation_run_iff (calls : List Call) (host : String) :
    ((run {} calls).reputation host = .ok true ↔ ∃ s, Covers s host ∧ LastFlags calls s) ∧
      ∀ address, (run {} (calls ++ [.unflag address])).reputation host = .ok true ↔
        ∃ s, Covers s host ∧ LastFlags calls s ∧ s ≠ bareHost address := by
  constructor
  · simp only [reputation_eq_iff, mem_hosts_run_iff]
  · intro address
    simp only [reputation_eq_iff, mem_hosts_run_iff, lastFlags_concat_unflag_iff]

/-- A flag is taken back in another spelling, while that of the parent stays. -/
example :
    let calls : List Call := [.flag "bad.example", .flag "https://www.CDN.bad.example:80/x",
      .unflag "cdn.bad.example", .unflag "example"]
    (run {} calls).hosts = ["bad.example"] ∧
      (run {} calls).isFlagged "cdn.bad.example" = true := by
  decide +kernel

end FlaggedHosts

end GuildModeration
