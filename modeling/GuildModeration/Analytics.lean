import GuildModeration.Ids
import GuildModeration.Log.Event
import GuildModeration.Table

/-!
# Counts of what moderation does

For every guild: how many messages some rule applied to without a violation, and how many violated
one. Counts only grow.
-/

namespace GuildModeration

/-- What is counted. -/
inductive Activity where
  /-- A message that some rule applied to and none objected to. -/
  | checked
  /-- A message that violated a rule. -/
  | ruleTriggered
  deriving DecidableEq, Repr

namespace Activity

/-- The name of an activity. -/
def name : Activity → String
  | checked => "checked"
  | ruleTriggered => "rule_triggered"

/-- The activity of a name. -/
def ofName? (s : String) : Option Activity :=
  [checked, ruleTriggered].find? (·.name == s)

end Activity

/-- How often each activity took place in each guild. -/
structure Counters where
  counts : Table (GuildId × Activity) Nat := .empty
  deriving Repr

namespace Counters

/-- How often an activity took place in a guild. -/
def count (c : Counters) (guild : GuildId) (activity : Activity) : Nat :=
  (c.counts.find? (guild, activity)).getD 0

/-- How often an activity took place in all guilds. -/
def total (c : Counters) (activity : Activity) : Nat :=
  (c.counts.entries.filter fun e ↦ e.1.2 == activity).foldl (fun n e ↦ n + e.2) 0

/-- Counts an activity. -/
def record (c : Counters) (guild : GuildId) (activity : Activity) : Counters :=
  ⟨c.counts.insert (guild, activity) (c.count guild activity + 1)⟩

/-- The report on a counted activity. -/
def recordEvent (guild : GuildId) (activity : Activity) : Log.Event :=
  { level := .debug
    topic := Log.Topic.analytics
    message := "Recorded analytics unit"
    fields := [("guild_id", .ofId guild), ("category", .word "automod"),
      ("event", .text activity.name)] }

theorem count_record (c : Counters) (g h : GuildId) (a b : Activity) :
    (c.record g a).count h b = c.count h b + if (g, a) = (h, b) then 1 else 0 := by
  unfold record count
  rw [Table.find?_insert]
  by_cases e : (g, a) = (h, b)
  · obtain ⟨rfl, rfl⟩ := Prod.mk.inj e
    simp
  · simp [e]

end Counters

end GuildModeration
