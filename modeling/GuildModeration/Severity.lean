/-!
# Severities

How hard a violation is punished, from a mere warning up to a ban. The order is what lets one
violation outweigh another.
-/

namespace GuildModeration

/-- The punishment that a rule asks for; `none` asks for a warning only. -/
inductive Severity where
  | none
  | mute
  | kick
  | ban
  deriving DecidableEq, Repr, Inhabited

namespace Severity

/-- The place in the order, from the mildest up. -/
def rank : Severity → Nat
  | none => 0
  | mute => 1
  | kick => 2
  | ban => 3

instance : LE Severity := ⟨fun a b ↦ a.rank ≤ b.rank⟩

instance : LT Severity := ⟨fun a b ↦ a.rank < b.rank⟩

instance (a b : Severity) : Decidable (a ≤ b) := inferInstanceAs (Decidable (a.rank ≤ b.rank))

instance (a b : Severity) : Decidable (a < b) := inferInstanceAs (Decidable (a.rank < b.rank))

instance : Max Severity := ⟨fun a b ↦ if a < b then b else a⟩

theorem rank_injective {a b : Severity} (h : a.rank = b.rank) : a = b := by
  cases a <;> cases b <;> simp_all [rank]

/-- All severities, from the mildest up. -/
def all : List Severity := [none, mute, kick, ban]

/-- The name under which a severity is configured and shown. -/
def name : Severity → String
  | none => "None"
  | mute => "Mute"
  | kick => "Kick"
  | ban => "Ban"

/-- The corrective action that carries a severity out. -/
def action : Severity → String
  | none => "warn"
  | mute => "mute"
  | kick => "kick"
  | ban => "ban"

/-- The severity of a name. -/
def ofName? (s : String) : Option Severity :=
  all.find? (·.name == s)

theorem ofName?_name (a : Severity) : ofName? a.name = some a := by
  cases a <;> decide

/-- The hardest of some severities, if there are any. -/
def hardest? (severities : List Severity) : Option Severity :=
  severities.foldl (fun best s ↦ some ((best.map (max · s)).getD s)) Option.none

end Severity

end GuildModeration
