import GuildModeration.Link.Host
import GuildModeration.Rule.Basic

/-!
# The sites rule

A message that names a banned website, or something below one, is a violation; on request a message
that names a host of ill repute is one too. The hosts of a message are looked at from left to right,
and the first that decides ends the check: a failing lookup decides as well. Like the lexicon of
banned words, the banned hosts are compiled from the list once.
-/

namespace GuildModeration

/-- The banned websites as they were entered, and the bare hosts made of them. -/
structure SitesRule where
  settings : RuleSettings := {}
  bannedWebsites : List String := []
  asksReputation : Bool := false
  bannedHosts : List String := []
  deriving DecidableEq, Repr, Inhabited

namespace SitesRule

/-- The rule with its banned hosts made from the list; entries without a host are left out. -/
def compile (r : SitesRule) : SitesRule :=
  { r with bannedHosts := (r.bannedWebsites.map Link.bareHost).filter (!·.isEmpty) }

/-- The longest banned host that `host` is, or is below. -/
def banned? (r : SitesRule) (host : String) : Option String :=
  (Link.hostSuffixes host).find? r.bannedHosts.contains

/-- The hosts that a message names, without `www.` in front. -/
def namedHosts (content : String) : List String :=
  (Link.hosts content).map fun host ↦ String.ofList (Link.withoutWww host.toList)

/-- The verdict on one host; `none` leaves it to the hosts that follow. -/
def judge (r : SitesRule) (reputation : Reputation) (host : String) : RuleAnswer :=
  match r.banned? host with
  | some site => .ok (some (r.settings.violation s!"Sent a link to a banned website: `{site}`"))
  | none =>
    if r.asksReputation then
      (reputation host).map fun flagged ↦
        if flagged then
          some (r.settings.violation s!"Sent a link to a flagged website: `{host}`")
        else none
    else .ok none

/-- The verdict of the first host that decides. -/
def judgeAll (r : SitesRule) (reputation : Reputation) : List String → RuleAnswer
  | [] => .ok none
  | host :: rest =>
    match r.judge reputation host with
    | .ok none => judgeAll r reputation rest
    | answer => answer

/-- Judges the hosts that the message names. -/
def check (r : SitesRule) (message : Message) (state : RuleState) : RuleAnswer :=
  r.judgeAll state.reputation (namedHosts message.content)

/-- The sites rule of a guild. -/
def rule (r : SitesRule) : Rule :=
  r.settings.ruleOf "sites" r.check

end SitesRule

end GuildModeration
