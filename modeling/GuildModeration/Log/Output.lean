import GuildModeration.Log.Filter
import GuildModeration.Text.Quoted

/-!
# Where events go

What passes the filter is told in two places. The console shows the operator how the program fares,
one line for an event. Two files keep what users and moderators may want to look up: what was done
on commands, and what was done on messages. Failures are kept in both files.
-/

namespace GuildModeration.Log

/-- The topics that the console shows. -/
def consoleTopics : List String :=
  [Topic.console, Topic.program, Topic.logging, Topic.connection, Topic.requests]

/-- The topics of what the program does for guilds and users, as against how the program fares. -/
def workTopics : List String :=
  [Topic.automod, Topic.analytics, Topic.command, Topic.error, Topic.event, Topic.console,
    Topic.connection]

/-- The files with the topics that they keep. -/
def fileTopics : List (String × List String) := [
  ("commands", [Topic.command, Topic.error]),
  ("automod", [Topic.automod, Topic.analytics, Topic.error])]

/-- A value on the console; fixed words are in quotes. -/
def Value.shown : Value → String
  | number n => toString n
  | text s => s
  | word s => Text.quoted s

/-- The line of an event on the console. -/
def Event.line (e : Event) : String :=
  s!"{e.level.name} {e.topic}: {e.message}" ++
    String.join (e.fields.map fun (name, value) ↦ s!" {name}={value.shown}")

/-- What the places show. -/
structure Output where
  console : List String
  files : List (String × List Event)

/-- What becomes of events under a filter. -/
def Output.ofEvents (f : Filter) (events : List Event) : Output :=
  let passed := events.filter f.passes
  { console := (passed.filter fun e ↦ consoleTopics.contains e.topic).map (·.line)
    files := fileTopics.map fun (name, topics) ↦
      (name, passed.filter fun e ↦ topics.contains e.topic) }

/-- The first event of a log. -/
def openedEvent : Event :=
  { level := .info, topic := Topic.logging, message := "Logging system initialized" }

/-- The text over which opening the log a second time breaks down. -/
def reopenedText : String :=
  "failed to set global default subscriber: " ++
    "SetGlobalDefaultError(\"a global default trace dispatcher has already been set\")"

end GuildModeration.Log
