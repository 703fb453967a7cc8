import GuildModeration.Proofs.Evaluation.Padding
import GuildModeration.Proofs.Link.Address
import GuildModeration.Proofs.Link.Case

/-!
# Banned sites are found

An address of a banned site is found in whatever spelling it is written, with a web scheme or
without one and with any labels in front of the site, as long as it stands apart from the text
before it and nothing behind it continues the host. It takes three steps. The host of the address is
read whole and from its start, so it is among the hosts of the message. Its lower case ends with
that of the site, at a label boundary, and the site without `www.` is still one of its suffixes when
its own `www.` is taken off. So the host is banned, and as no lookup fails either it is reached or
an earlier host has decided for a violation.
-/

namespace GuildModeration

open GuildModeration.Text GuildModeration.Link

/-- An address of a site in a text: a web scheme or none, any labels, and the site, in any case. The
text before it is empty or ends with a blank; the text behind it closes the address. -/
structure SiteMention (site : Hostname Char.isAlpha) where
  before : String
  scheme : List Char
  labels : List (List Char)
  address : String
  after : String
  before_opens : OpensAddress before.toList
  scheme_mem : scheme ∈ webSchemes
  isLabel : ∀ label ∈ labels, IsLabel Char.isAlpha label
  sameButCase : SameButCase address (String.ofList (scheme ++ dotted labels ++ site.chars))
  after_closes : ClosesAddress after.toList

namespace SiteMention

variable {site : Hostname Char.isAlpha}

/-- The whole text. -/
def content (a : SiteMention site) : String :=
  a.before ++ a.address ++ a.after

/-- The host of the address. -/
def host (a : SiteMention site) : Hostname isLatin :=
  keepsHosts_isAlpha.map (site.below a.labels a.isLabel)

theorem chars_host (a : SiteMention site) : a.host.chars = dotted a.labels ++ site.chars := by
  rw [host, keepsHosts_isAlpha.chars_map, List.map_id, Hostname.chars_below]

/-- The address may as well be written as the site is. -/
theorem content_sameButCase (a : SiteMention site) : SameButCase a.content
    (String.ofList (a.before.toList ++ (a.scheme ++ (a.host.chars ++ a.after.toList)))) := by
  have haddress := sameButCase_iff.mp a.sameButCase
  rw [sameButCase_iff, content, String.toList_append, String.toList_append, List.map_append,
    List.map_append, haddress, a.chars_host]
  simp

theorem mem_hosts (a : SiteMention site) :
    String.ofList (lowerChars a.host.chars) ∈ hosts a.content := by
  rw [hosts_eq_of_sameButCase a.content_sameButCase, hosts, String.toList_ofList]
  refine List.mem_map.mpr ⟨a.host.chars, ?_, rfl⟩
  exact mem_rawHosts_append a.before_opens (address?_append a.scheme_mem a.host a.after_closes)

/-- The bare host of the site is a suffix of the host, with or without `www.` in front of both. -/
theorem bareHost_mem_hostSuffixes (a : SiteMention site) :
    bareHost (String.ofList site.chars) ∈
      hostSuffixes (String.ofList (withoutWww (lowerChars a.host.chars))) := by
  have hsite := isHostChar_of_mem_chars site
  have hlower : lowerChars a.host.chars =
      (dotted a.labels).map smallChar ++ lowerChars site.chars := by
    rw [lowerChars_of_isHostChar a.host.isHostChar, a.chars_host, List.map_append,
      lowerChars_of_isHostChar hsite]
  have hbelow : (dotted a.labels).map smallChar = [] ∨
      ∃ front, (dotted a.labels).map smallChar = front ++ ['.'] := by
    rcases dotted_cases a.labels with hnil | ⟨front, hfront⟩
    · exact Or.inl (by rw [hnil, List.map_nil])
    · exact Or.inr ⟨front.map smallChar, by rw [hfront, List.map_append]; rfl⟩
  rw [bareHost, String.toList_ofList, bareHostChars_of_isHostChar hsite, hlower]
  exact mem_hostSuffixes (withoutWww_mem_of_below hbelow)

end SiteMention

namespace SitesRule

variable {r : SitesRule} {site : Hostname Char.isAlpha}

theorem bareHost_ne_empty (site : Hostname Char.isAlpha) :
    bareHost (String.ofList site.chars) ≠ "" := by
  have hsite := isHostChar_of_mem_chars site
  have hsmall : lowerChars site.chars =
      (keepsHosts_smallChar.map (keepsHosts_isAlpha.map site)).chars := by
    rw [lowerChars_of_isHostChar hsite, keepsHosts_smallChar.chars_map,
      keepsHosts_isAlpha.chars_map, List.map_id]
  rw [bareHost, String.toList_ofList, bareHostChars_of_isHostChar hsite, hsmall, Ne,
    String.ofList_eq_empty_iff]
  exact Hostname.withoutWww_ne_nil _ (by decide)

theorem mem_bannedHosts (hsite : String.ofList site.chars ∈ r.bannedWebsites) :
    bareHost (String.ofList site.chars) ∈ r.compile.bannedHosts :=
  mem_bannedHosts_compile_iff.mpr ⟨bareHost_ne_empty site, _, hsite, rfl⟩

/-- A host with a banned suffix is a violation, whatever its reputation. -/
theorem exists_judge_of_mem {host part : String} (hpart : part ∈ hostSuffixes host)
    (hbanned : part ∈ r.bannedHosts) (reputation : Reputation) :
    ∃ v, r.judge reputation host = .ok (some v) := by
  have hcovered : r.IsBanned host := ⟨part, hbanned, mem_hostSuffixes_iff.mp hpart⟩
  obtain ⟨nearest, hnearest⟩ := hcovered.exists_nearest
  exact ⟨_, judge_of_decides (.banned hnearest)⟩

/-- Whatever else is banned, whatever stands around the address and whoever is asked for the
reputation of hosts, as long as an answer comes: a message with an address of a banned site, or of
something below it, is a violation. -/
theorem check_mention (hsite : String.ofList site.chars ∈ r.bannedWebsites)
    (a : SiteMention site) {m : Message} (hm : m.content = a.content) {state : RuleState}
    (htotal : state.reputation.IsTotal) :
    ∃ v, r.compile.check m state = .ok (some v) ∧ v.severity = r.settings.punishment := by
  have hnamed : String.ofList (withoutWww (lowerChars a.host.chars)) ∈ namedHosts m.content := by
    rw [hm, namedHosts]
    refine List.mem_map.mpr ⟨_, a.mem_hosts, ?_⟩
    rw [String.toList_ofList]
  obtain ⟨v, hv⟩ := exists_judge_of_mem a.bareHost_mem_hostSuffixes (mem_bannedHosts hsite)
    state.reputation
  obtain ⟨v', hv'⟩ := judgeAll_of_judge htotal hnamed hv
  obtain ⟨other, -, hother⟩ := exists_judge_of_judgeAll hv'
  exact ⟨v', hv', severity_of_judge (r := r.compile) hother⟩

/-- The site is entered with `www.`, and named in other case behind an ideographic space, with a
scheme, a label and `www.` before it and a query behind it. -/
theorem check_mention_below :
    let r : SitesRule :=
      { settings := .enabledWith .ban 10, bannedWebsites := ["other.net", "WWW.bad.example"],
        asksReputation := true }
    let m : Message := { content := "look:\u3000HTTPS://cdn.Www.BAD.example?x" }
    "WWW.bad.example" ∈ r.bannedWebsites ∧ ({} : RuleState).reputation.IsTotal ∧
      ∃ v, r.compile.check m {} = .ok (some v) ∧ v.severity = .ban := by
  intro r m
  let site : Hostname Char.isAlpha :=
    { labels := ["WWW".toList, "bad".toList], top := "example".toList, labels_ne_nil := by decide,
      isLabel := by decide, isTopLevel := by decide }
  let a : SiteMention site :=
    { before := "look:\u3000", scheme := "https://".toList, labels := ["cdn".toList],
      address := "HTTPS://cdn.Www.BAD.example", after := "?x", before_opens := by decide,
      scheme_mem := by decide, isLabel := by decide, sameButCase := by decide,
      after_closes := by decide }
  have hsite : String.ofList site.chars ∈ r.bannedWebsites := by decide
  have htotal : ({} : RuleState).reputation.IsTotal := FlaggedHosts.isTotal_reputation {}
  have hm : m.content = a.content := by decide
  exact ⟨hsite, htotal, check_mention hsite a hm htotal⟩

end SitesRule

end GuildModeration
