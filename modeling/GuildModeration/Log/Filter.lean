import GuildModeration.Log.Event
import GuildModeration.Text.Numeral
import GuildModeration.Text.Words

/-!
# Filters of the log

Which events are let through. A filter is a list of directives, each of which names a beginning of
topics and the lightest level that passes there. For an event the directive with the longest
beginning of its topic decides, of two with the same beginning the later one. Where no directive
applies nothing passes.

In writing the directives stand between commas. `topic=level` is a directive for a beginning of
topics, `topic` or `topic=` lets all levels pass there, and a level alone is for all topics. Levels
are named, in any case of letters, or given by number, from 0 for none up to 5 for all.
-/

namespace GuildModeration.Log

/-- A rule for the topics with a given beginning. -/
structure Directive where
  beginning : String := ""
  /-- The lightest level that passes, if any does. -/
  lightest : Option Level
  deriving DecidableEq, Repr

namespace Directive

/-- The directive is for a topic. -/
def appliesTo (d : Directive) (topic : String) : Bool :=
  d.beginning.toList.isPrefixOf topic.toList

/-- The directive lets a level pass. -/
def admits (d : Directive) (l : Level) : Bool :=
  (d.lightest.map fun least ↦ decide (least.rank ≤ l.rank)).getD false

/-! ## Reading -/

/-- The lightest levels that can be asked for, by number. -/
def thresholds : List (String × Option Level) := [
  ("off", none), ("error", some .error), ("warn", some .warn), ("info", some .info),
  ("debug", some .debug), ("trace", some .trace)]

/-- What a level in writing lets pass. -/
def threshold? (s : String) : Option (Option Level) :=
  match Text.word64? s with
  | some n => (thresholds[n.toNat]?).map (·.2)
  | none => thresholds.lookup (s.map Char.toLower)

/-- Characters of topics. -/
def isTopicChar (c : Char) : Bool :=
  Text.isWordChar c || c == ':' || c == '-'

/-- The directive in a piece of writing. -/
def ofText? (s : String) : Option Directive :=
  match threshold? s with
  | some lightest => some { lightest }
  | none =>
    let (topic, rest) := s.toList.span isTopicChar
    let beginning := String.ofList topic
    if topic.isEmpty then none
    else match rest with
      | [] | ['='] => some { beginning, lightest := some .trace }
      | '=' :: level =>
        (threshold? (String.ofList level)).map fun lightest ↦ { beginning, lightest }
      | _ => none

end Directive

/-- The directives, in the order in which they were given. -/
abbrev Filter := List Directive

namespace Filter

/-- The directive that decides on a topic: of two that apply the longer one, or else the later. -/
def decider? (f : Filter) (topic : String) : Option Directive :=
  (f.filter (·.appliesTo topic)).foldl (fun best d ↦
    match best with
    | none => some d
    | some b => if d.beginning.length < b.beginning.length then some b else some d) none

/-- The event passes. -/
def passes (f : Filter) (e : Event) : Bool :=
  ((f.decider? e.topic).map (·.admits e.level)).getD false

/-- The filter in a piece of writing. -/
def ofText? (s : String) : Option Filter :=
  ((s.splitOn ",").filter fun part ↦ !part.isEmpty).mapM Directive.ofText?

/-- What holds when nothing else is asked for. -/
def standard : Filter :=
  [{ lightest := some .info }]

/-- The filter that was asked for; what makes no sense counts as not asked for. -/
def ofSetting (setting : Option String) : Filter :=
  (setting.bind ofText?).getD standard

end Filter

end GuildModeration.Log
