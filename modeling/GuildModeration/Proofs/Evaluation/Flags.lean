import GuildModeration.Proofs.Link.Case
import GuildModeration.Rule.Reputation
import Mathlib.Data.List.Forall2

/-!
# Hosts flagged one by one

The set of flagged hosts is filled by calls that flag an address or take the flag back. A call makes
the bare host of its address and looks at nothing else, so the case of the address does not matter.
-/

namespace GuildModeration

open GuildModeration.Text GuildModeration.Link

namespace FlaggedHosts

/-- A call that changes the set. -/
inductive Call where
  | flag (address : String)
  | unflag (address : String)

/-- The calls are of one kind, with addresses that differ in nothing but case. -/
inductive Call.SameButCase : Call → Call → Prop where
  | flag {a b : String} (h : Text.SameButCase a b) : SameButCase (.flag a) (.flag b)
  | unflag {a b : String} (h : Text.SameButCase a b) : SameButCase (.unflag a) (.unflag b)

/-- The set after a call. -/
def call (f : FlaggedHosts) : Call → FlaggedHosts
  | .flag address => f.flag address
  | .unflag address => f.unflag address

/-- The set after some calls, one after the other. -/
def run (f : FlaggedHosts) (calls : List Call) : FlaggedHosts :=
  calls.foldl call f

theorem call_eq_of_sameButCase {a b : Call} (h : a.SameButCase b) (f : FlaggedHosts) :
    f.call a = f.call b := by
  cases h with
  | flag h => rw [call, call, flag, flag, bareHost_eq_of_sameButCase h]
  | unflag h => rw [call, call, unflag, unflag, bareHost_eq_of_sameButCase h]

theorem run_eq_of_sameButCase {calls calls' : List Call}
    (h : List.Forall₂ Call.SameButCase calls calls') (f : FlaggedHosts) :
    f.run calls = f.run calls' := by
  induction h generalizing f with
  | nil => rfl
  | cons hcall _ ih =>
    rw [run, List.foldl_cons, call_eq_of_sameButCase hcall f]
    exact ih _

end FlaggedHosts

end GuildModeration
