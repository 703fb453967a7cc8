import GuildModeration.Config
import GuildModeration.Config.Fields

/-!
# The written form of a configuration

How the policy of a guild is written as a document, and how such a document is read. The settings
that all rules share stand beside a rule's own fields in one flat record. They are read from values,
a rule's own fields straight from the nodes, and so a rule accepts any unknown field that has a
value. The mute mechanism is a record whose field `kind` says which one it is, or a list that starts
with the kind.

Compiled lists are not part of the form.
-/

namespace GuildModeration

open GuildModeration.Yaml

/-! ## Reading values -/

/-- The severity at a place in the order of all severities. -/
def Severity.ofIndex? (n : Nat) : Option Severity :=
  all[n]?

/-- A severity is given by its name, or as a map whose only key is the name, or the place, and whose
value is void. -/
def Severity.ofValue? : Value → Option Severity
  | .text s => ofName? s
  | .map [(.text s, v)] => if v.isVoid then ofName? s else Option.none
  | .map [(.natural n, v)] => if v.isVoid then ofIndex? n else Option.none
  | _ => Option.none

/-- A number of 32 bits. -/
def word32OfValue? (v : Value) : Option UInt32 :=
  (v.natural? UInt32.size).map UInt32.ofNat

/-- A number of 64 bits. -/
def word64OfValue? (v : Value) : Option UInt64 :=
  (v.natural? UInt64.size).map UInt64.ofNat

/-- A number of 64 bits, or null for none. -/
def optionalWord64OfValue? : Value → Option (Option UInt64)
  | .null => some none
  | v => (word64OfValue? v).map some

/-- The numbers of a list. -/
def word64sOfValue? (v : Value) : Option (List UInt64) :=
  v.items?.bind fun items ↦ items.mapM word64OfValue?

/-- The shared settings of a rule, from all fields that are not the rule's own. -/
def RuleSettings.ofFields? (fs : Fields Value) : Option RuleSettings := do
  let initial : RuleSettings := {}
  return {
    enabled := ← fs.get? ["enabled"] initial.enabled Value.flag?
    punishment := ← fs.get? ["punishment"] initial.punishment Severity.ofValue?
    muteMinutes := ← fs.get? ["mute_duration"] initial.muteMinutes word32OfValue?
    exemptRole := ← fs.get? ["ignore_role"] initial.exemptRole optionalWord64OfValue?
    exemptChannels := ← fs.get? ["ignore_channels"] initial.exemptChannels word64sOfValue? }

/-! ## Reading rules -/

/-- A number of 32 bits. -/
def word32? (d : Document) (n : Node) : Option UInt32 :=
  (d.natural? UInt32.size n).map UInt32.ofNat

/-- A number of 64 bits. -/
def word64? (d : Document) (n : Node) : Option UInt64 :=
  (d.natural? UInt64.size n).map UInt64.ofNat

/-- How deep the values inside a record of the policy may be nested: the two records around them
count as well. -/
def innerDepth : Nat := maxDepth - 2

/-- The fields of a rule: its own, and the values of all others. -/
def ruleFields? (d : Document) (own : List String) (n : Node) :
    Option (Fields Node × Fields Value) := do
  let fs ← d.fields? n
  let rest ← (Fields.without fs own).mapM fun (name, node) ↦
    (d.value? innerDepth node).map fun v ↦ (name, v)
  return (fs, rest)

/-- Reads the spam rule. -/
def SpamRule.ofNode? (d : Document) (n : Node) : Option SpamRule := do
  let (own, rest) ← ruleFields? d ["num_messages", "within_seconds"] n
  let initial : SpamRule := {}
  return {
    settings := ← RuleSettings.ofFields? rest
    maxMessages := ← own.get? ["num_messages"] initial.maxMessages (word32? d)
    withinSeconds := ← own.get? ["within_seconds"] initial.withinSeconds (word32? d) }

/-- Reads the invite rule. -/
def InviteRule.ofNode? (d : Document) (n : Node) : Option InviteRule := do
  let (_, rest) ← ruleFields? d [] n
  return { settings := ← RuleSettings.ofFields? rest }

/-- Reads the mention rule. -/
def MentionRule.ofNode? (d : Document) (n : Node) : Option MentionRule := do
  let names := ["threshold", "treshold"]
  let (own, rest) ← ruleFields? d names n
  let initial : MentionRule := {}
  return {
    settings := ← RuleSettings.ofFields? rest
    threshold := ← own.get? names initial.threshold (word32? d) }

/-- Reads the links rule. -/
def LinksRule.ofNode? (d : Document) (n : Node) : Option LinksRule := do
  let (_, rest) ← ruleFields? d [] n
  return { settings := ← RuleSettings.ofFields? rest }

/-- Reads the words rule. -/
def WordsRule.ofNode? (d : Document) (n : Node) : Option WordsRule := do
  let (own, rest) ← ruleFields? d ["banned_words"] n
  return {
    settings := ← RuleSettings.ofFields? rest
    bannedWords := ← own.get? ["banned_words"] [] d.texts? }

/-- Reads the sites rule. -/
def SitesRule.ofNode? (d : Document) (n : Node) : Option SitesRule := do
  let (own, rest) ← ruleFields? d ["banned_websites", "check_reputation"] n
  return {
    settings := ← RuleSettings.ofFields? rest
    bannedWebsites := ← own.get? ["banned_websites"] [] d.texts?
    asksReputation := ← own.get? ["check_reputation"] false d.flag? }

/-! ## Reading the mute mechanism -/

/-- The key of an entry names the role of a mute: by its name, or by its place as the first field.
Keys that are neither texts nor numbers are malformed. -/
def isRoleKey? : Value → Option Bool
  | .text s => some (s == "role_id")
  | .natural n => some (n == 0)
  | _ => none

/-- The role of a mute from the entries beside its kind. -/
def roleOfEntries? (entries : List (Value × Value)) : Option RoleId := do
  let marked ← entries.mapM fun (key, value) ↦ (isRoleKey? key).map fun b ↦ (b, value)
  match marked.filter (·.1) with
  | [(_, value)] => word64OfValue? value
  | _ => none

/-- The mechanism of a kind with the entries beside the kind. -/
def MuteMechanism.ofEntries? (kind : String) (entries : List (Value × Value)) :
    Option MuteMechanism :=
  match kind with
  | "none" => some .none
  | "role" => (roleOfEntries? entries).map .role
  | "timeout" => some .timeout
  | _ => Option.none

/-- The mechanism of a kind with the items behind the kind. -/
def MuteMechanism.ofItems? (kind : String) (items : List Value) : Option MuteMechanism :=
  match kind, items with
  | "none", [] => some .none
  | "role", [item] => (word64OfValue? item).map .role
  | "timeout", [] => some .timeout
  | _, _ => Option.none

/-- Reads the mute mechanism. -/
def MuteMechanism.ofNode? (d : Document) (n : Node) : Option MuteMechanism :=
  match d.resolve n with
  | .map tag entries =>
    if isLocal tag then Option.none
    else do
      let keyed ← entries.mapM fun (key, node) ↦
        (d.value? innerDepth key).map fun k ↦ (k, node)
      let isKind (k : Value) : Bool := match k with
        | .text s => s == "kind"
        | _ => false
      match keyed.filter fun e ↦ isKind e.1 with
      | [(_, kind)] =>
        let entries ← (keyed.filter fun e ↦ !isKind e.1).mapM fun (k, node) ↦
          (d.value? innerDepth node).map fun v ↦ (k, v)
        ofEntries? (← d.text? kind) entries
      | _ => Option.none
  | .list tag (kind :: items) =>
    if isLocal tag then Option.none
    else do ofItems? (← d.text? kind) (← items.mapM (d.value? innerDepth))
  | _ => Option.none

/-! ## Reading the policy -/

/-- Reads the policy of a guild from a node. -/
def GuildConfig.ofNode? (d : Document) (n : Node) : Option GuildConfig := do
  let fs ← d.fields? n
  return {
    guild := ← Fields.get? fs ["guild_id"] 0 (word64? d)
    enabled := ← Fields.get? fs ["enabled"] false d.flag?
    mute := ← Fields.get? fs ["mute"] .none (MuteMechanism.ofNode? d)
    spam := ← Fields.get? fs ["spam"] {} (SpamRule.ofNode? d)
    invite := ← Fields.get? fs ["invite"] {} (InviteRule.ofNode? d)
    mention := ← Fields.get? fs ["mention"] {} (MentionRule.ofNode? d)
    links := ← Fields.get? fs ["links"] {} (LinksRule.ofNode? d)
    words := ← Fields.get? fs ["words"] {} (WordsRule.ofNode? d)
    sites := ← Fields.get? fs ["sites"] {} (SitesRule.ofNode? d) }

/-- Reads the policy of a guild; a document without content means the defaults. -/
def GuildConfig.ofDocument? (d : Document) : Option GuildConfig :=
  GuildConfig.ofNode? d (d.root.getD .blank)

/-! ## Writing -/

/-- A truth value. -/
def flagNode (b : Bool) : Node :=
  .plain (if b then "true" else "false")

/-- A number. -/
def numberNode (n : Nat) : Node :=
  .plain (toString n)

/-- A list of texts. -/
def textsNode (texts : List String) : Node :=
  .ofList (texts.map .quoted)

/-- The shared settings of a rule. -/
def RuleSettings.toFields (s : RuleSettings) : Fields Node :=
  [("enabled", flagNode s.enabled), ("punishment", .quoted s.punishment.name),
    ("mute_duration", numberNode s.muteMinutes.toNat),
    ("ignore_role", (s.exemptRole.map fun role ↦ numberNode role.toNat).getD (.plain "null")),
    ("ignore_channels", .ofList (s.exemptChannels.map fun c ↦ numberNode c.toNat))]

/-- Writes the mute mechanism. -/
def MuteMechanism.toNode : MuteMechanism → Node
  | .none => .ofFields [("kind", .quoted "none")]
  | .role id => .ofFields [("kind", .quoted "role"), ("role_id", numberNode id.toNat)]
  | .timeout => .ofFields [("kind", .quoted "timeout")]

/-- Writes the spam rule. -/
def SpamRule.toNode (r : SpamRule) : Node :=
  .ofFields (r.settings.toFields ++ [("num_messages", numberNode r.maxMessages.toNat),
    ("within_seconds", numberNode r.withinSeconds.toNat)])

/-- Writes the invite rule. -/
def InviteRule.toNode (r : InviteRule) : Node :=
  .ofFields r.settings.toFields

/-- Writes the mention rule. -/
def MentionRule.toNode (r : MentionRule) : Node :=
  .ofFields (r.settings.toFields ++ [("threshold", numberNode r.threshold.toNat)])

/-- Writes the links rule. -/
def LinksRule.toNode (r : LinksRule) : Node :=
  .ofFields r.settings.toFields

/-- Writes the words rule. -/
def WordsRule.toNode (r : WordsRule) : Node :=
  .ofFields (r.settings.toFields ++ [("banned_words", textsNode r.bannedWords)])

/-- Writes the sites rule. -/
def SitesRule.toNode (r : SitesRule) : Node :=
  .ofFields (r.settings.toFields ++ [("banned_websites", textsNode r.bannedWebsites),
    ("check_reputation", flagNode r.asksReputation)])

/-- Writes the policy of a guild. -/
def GuildConfig.toNode (c : GuildConfig) : Node :=
  .ofFields [("guild_id", numberNode c.guild.toNat), ("enabled", flagNode c.enabled),
    ("mute", c.mute.toNode), ("spam", c.spam.toNode), ("invite", c.invite.toNode),
    ("mention", c.mention.toNode), ("links", c.links.toNode), ("words", c.words.toNode),
    ("sites", c.sites.toNode)]

/-- Reads the policy of a guild from the text of a document. -/
def GuildConfig.parse? (text : String) : Option GuildConfig :=
  (Document.parse? text).bind GuildConfig.ofDocument?

end GuildModeration
