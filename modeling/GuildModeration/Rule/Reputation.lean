import GuildModeration.Link.Address

/-!
# Reputation of hosts

What the sites rule may ask about a host. An answer comes from memory and may fail. The set of
flagged hosts is the usual source: it answers for a host and everything below it.
-/

namespace GuildModeration

/-- Why a rule could not reach a verdict. -/
inductive RuleError where
  | lookupFailed (host reason : String)
  | other (text : String)
  deriving DecidableEq, Repr

/-- The wording of a rule's failure. -/
def RuleError.message : RuleError → String
  | .lookupFailed host reason => s!"Reputation lookup failed for {host}: {reason}"
  | .other text => s!"Rule check failed: {text}"

/-- Tells whether a host is known to be malicious. -/
abbrev Reputation := String → Except RuleError Bool

/-- The hosts flagged as malicious, each in its bare form and once. -/
structure FlaggedHosts where
  hosts : List String := []
  deriving DecidableEq, Repr

namespace FlaggedHosts

/-- Flags the host of an address. -/
def flag (f : FlaggedHosts) (address : String) : FlaggedHosts :=
  ⟨f.hosts.insert (Link.bareHost address)⟩

/-- Takes back the flag of the host of an address. -/
def unflag (f : FlaggedHosts) (address : String) : FlaggedHosts :=
  ⟨f.hosts.filter (· != Link.bareHost address)⟩

/-- The host, or one that it belongs to, is flagged. The host is taken as it is written. -/
def isFlagged (f : FlaggedHosts) (host : String) : Bool :=
  (Link.hostSuffixes host).any f.hosts.contains

/-- The set as a source of reputation, which never fails. -/
def reputation (f : FlaggedHosts) : Reputation :=
  fun host ↦ .ok (f.isFlagged host)

/-- The set with all of some addresses flagged. -/
def ofList (addresses : List String) : FlaggedHosts :=
  addresses.foldl flag {}

end FlaggedHosts

/-- The source that fails for the given hosts, as they are asked for, and else asks `r`. -/
def Reputation.failingFor (r : Reputation) (hosts : List String) (reason : String) : Reputation :=
  fun host ↦ if hosts.contains host then .error (.lookupFailed host reason) else r host

end GuildModeration
