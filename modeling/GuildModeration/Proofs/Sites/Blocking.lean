import GuildModeration.Proofs.Link.Labels
import GuildModeration.Proofs.Sites.Verdicts
import Mathlib.Data.Fintype.EquivFin

/-!
# How much a list of sites blocks

A listed site blocks itself and what lies below it, so that a blocked host has the last two labels
of an entry of the list, as long as two labels are left of each entry. There is one kind of entry of
which only one is left: `www.` and a top-level part, as in `www.com`. What is left of it is the
top-level part, and with it everything below that part is blocked (`blocksOnlyListed_iff`).
-/

namespace GuildModeration

open GuildModeration.Text GuildModeration.Link

/-! ## Entries -/

theorem toList_toLower (s : String) : s.toLower.toList = s.toList.map Char.toLower :=
  String.toList_map

/-- The text is nothing but a host of two labels or more, in ASCII letters, digits and hyphens. -/
def IsBareHostname (s : String) : Prop :=
  2 ≤ (labelsOf s.toList).length ∧
    ∀ label ∈ labelsOf s.toList, label ≠ [] ∧ ∀ c ∈ label, c.isAlphanum = true ∨ c = '-'

instance (s : String) : Decidable (IsBareHostname s) :=
  have (label : List Char) : Decidable (∀ c ∈ label, c.isAlphanum = true ∨ c = '-') :=
    List.decidableBAll _ label
  have : Decidable (∀ label ∈ labelsOf s.toList,
      label ≠ [] ∧ ∀ c ∈ label, c.isAlphanum = true ∨ c = '-') :=
    List.decidableBAll _ _
  inferInstanceAs (Decidable (_ ∧ _))

/-- In lower case the text is `www.` and a top-level part. -/
def IsWwwTopLevel (s : String) : Prop :=
  "www.".toList <+: s.toLower.toList ∧ IsTopLevel Char.isAlpha (s.toLower.toList.drop 4)

instance (s : String) : Decidable (IsWwwTopLevel s) :=
  inferInstanceAs (Decidable (_ ∧ _))

/-- The hosts have the same last two labels, but for the case of ASCII letters. -/
def SameDomain (s t : String) : Prop :=
  lastTwo s.toLower.toList = lastTwo t.toLower.toList

instance (s t : String) : Decidable (SameDomain s t) :=
  inferInstanceAs (Decidable (_ = _))

namespace IsBareHostname

variable {entry : String} (h : IsBareHostname entry)

include h

theorem of_mem {c : Char} (hc : c ∈ entry.toList) : c.isAlphanum = true ∨ c = '-' ∨ c = '.' := by
  by_cases hdot : c = '.'
  · exact Or.inr (Or.inr hdot)
  · obtain ⟨label, hlabel, hmem⟩ := exists_label_of_mem hc hdot
    exact ((h.2 label hlabel).2 c hmem).imp_right Or.inl

theorem isHostChar {c : Char} (hc : c ∈ entry.toList) : isHostChar c = true := by
  refine isHostChar_iff.mpr ?_
  rcases h.of_mem hc with hc | hc
  · rw [Char.isAlphanum, Bool.or_eq_true] at hc
    exact hc.imp (fun hletter ↦ isLatin_iff.mpr (Or.inl hletter)) Or.inl
  · exact Or.inr (Or.inr hc)

theorem toNat_lt {c : Char} (hc : c ∈ entry.toList) : c.toNat < 128 := by
  rcases h.of_mem hc with hc | rfl | rfl
  · rw [Char.isAlphanum, Bool.or_eq_true] at hc
    exact hc.elim toNat_lt_of_isAlpha toNat_lt_of_isDigit
  · decide
  · decide

theorem longS_not_mem : 'ſ' ∉ entry.toLower.toList := by
  rw [toList_toLower]
  intro hmem
  obtain ⟨c, hc, hlower⟩ := List.mem_map.mp hmem
  rw [toLower_eq_iff (by decide)] at hlower
  subst hlower
  have hlt := h.toNat_lt hc
  revert hlt
  decide

theorem bareHost_eq : bareHost entry = String.ofList (withoutWww entry.toLower.toList) := by
  rw [bareHost, bareHostChars_of_isHostChar fun _ ↦ h.isHostChar,
    lowerChars_of_toNat_lt fun _ ↦ h.toNat_lt, toList_toLower]

end IsBareHostname

/-! ## What a blocked host has in common with an entry -/

theorem toLower_map_toLower (cs : List Char) :
    (cs.map Char.toLower).map Char.toLower = cs.map Char.toLower := by
  have hblind : CaseBlind Char.toLower := caseBlind_of_capitals (by decide)
  rw [List.map_map]
  exact List.map_congr_left fun c _ ↦ hblind c

/-- Two labels that are left of an entry are the last two of what is blocked for it. -/
theorem sameDomain_of_covers {entry host : String} (hentry : IsBareHostname entry)
    (hcovers : Covers (bareHost entry) host)
    (htwo : 2 ≤ (labelsOf (bareHost entry).toList).length) : SameDomain host entry := by
  have hrest : Covers (bareHost entry) entry.toLower := by
    rw [hentry.bareHost_eq]
    simpa using covers_withoutWww entry.toLower.toList
  rw [SameDomain, toList_toLower, lastTwo_map_toLower, lastTwo_of_covers hcovers htwo,
    ← lastTwo_of_covers hrest htwo, ← lastTwo_map_toLower, toList_toLower, toLower_map_toLower]

/-- If one label is left of an entry and covers a host, the entry was `www.` and a top-level
part. -/
theorem isWwwTopLevel_of_covers {entry : String} (hentry : IsBareHostname entry)
    {host : Hostname isSmallLatin} (hcovers : Covers (bareHost entry) (String.ofList host.chars))
    (hone : (labelsOf (bareHost entry).toList).length < 2) : IsWwwTopLevel entry := by
  have htop := host.eq_top_of_covers (by decide) hcovers (dot_not_mem_of_length_lt hone)
  have hbare := hentry.bareHost_eq
  rcases withoutWww_cases entry.toLower.toList with ⟨rest, hlower, hrest⟩ | hsame
  · rw [hrest] at hbare
    rw [hbare, String.toList_ofList] at htop
    have hdrop : entry.toLower.toList.drop 4 = host.top := by
      rw [hlower, htop]
      rfl
    refine ⟨⟨rest, hlower.symm⟩, ?_⟩
    rw [hdrop]
    refine ⟨host.isTopLevel.two_le, host.isTopLevel.length_le, fun c hc ↦ ?_⟩
    have hsmall := host.isTopLevel.letters c hc
    rw [isSmallLatin, Bool.or_eq_true, beq_iff_eq] at hsmall
    rcases hsmall with hsmall | rfl
    · exact (Bool.or_eq_true _ _).mpr (Or.inr hsmall)
    · rw [← hdrop] at hc
      exact absurd (List.mem_of_mem_drop hc) hentry.longS_not_mem
  · have htwo := hentry.1
    rw [hbare, hsame, String.toList_ofList, toList_toLower, labelsOf_map_toLower,
      List.length_map] at hone
    omega

namespace SitesRule

variable {r : SitesRule} {m : Message} {state : RuleState}

theorem banned_text_ne_flagged_text (site host : String) :
    s!"Sent a link to a banned website: `{site}`" ≠
      s!"Sent a link to a flagged website: `{host}`" := by
  intro h
  have hchars := congrArg (fun text : String ↦ text.toList[17]?) h
  simp only [String.toList_append] at hchars
  rw [List.append_assoc, List.append_assoc] at hchars
  rw [List.getElem?_append_left (by decide), List.getElem?_append_left (by decide)] at hchars
  revert hchars
  decide

/-- What is told of a banned website is told of a banned host. -/
theorem Decides.isBanned {reputation : Reputation} {host site : String} {answer : RuleAnswer}
    (h : r.Decides reputation host answer) (hanswer : answer =
      .ok (some (r.settings.violation s!"Sent a link to a banned website: `{site}`"))) :
    r.IsBanned host := by
  cases h with
  | banned hnearest => exact ⟨_, hnearest.mem, hnearest.covers⟩
  | flagged =>
    have hreason := congrArg Violation.reason (Option.some.inj (Except.ok.inj hanswer))
    exact absurd hreason.symm (banned_text_ne_flagged_text site host)
  | failed => cases hanswer

/-- A check that tells of a banned website has found one that covers a host of the message. -/
theorem exists_covers_of_check {site : String} (h : r.check m state =
    .ok (some (r.settings.violation s!"Sent a link to a banned website: `{site}`"))) :
    ∃ host ∈ hosts m.content, ∃ banned ∈ r.bannedHosts, Covers banned host := by
  obtain ⟨named, hnamed, hjudge⟩ := exists_judge_of_judgeAll h
  obtain ⟨banned, hbanned, hcovers⟩ := (decides_of_judge hjudge).isBanned rfl
  obtain ⟨host, hhost, rfl⟩ := List.mem_map.mp hnamed
  refine ⟨host, hhost, banned, hbanned, hcovers.trans ?_⟩
  simpa using covers_withoutWww host.toList

/-- Whatever message is found to name a banned website, it names a host with the last two labels of
an entry of the list. -/
def BlocksOnlyListed (r : SitesRule) : Prop :=
  ∀ (m : Message) (state : RuleState) (site : String),
    r.compile.check m state =
        .ok (some (r.settings.violation s!"Sent a link to a banned website: `{site}`")) →
      ∃ host ∈ hosts m.content, ∃ entry ∈ r.bannedWebsites, SameDomain host entry

/-! ## Entries that leave one label -/

/-- There is a length that no label of the list has. -/
theorem exists_length_ne (labels : List (List Char)) :
    ∃ n, ∀ label ∈ labels, label.length ≠ n + 1 := by
  obtain ⟨n, hn⟩ := Infinite.exists_notMem_finset (labels.map (·.length - 1)).toFinset
  rw [List.mem_toFinset] at hn
  refine ⟨n, fun label hlabel hlength ↦ hn (List.mem_map.mpr ⟨label, hlabel, ?_⟩)⟩
  rw [hlength, Nat.add_sub_cancel]

/-- A host with one label, of the given length, before its top-level part. -/
def plainHost (n : Nat) {top : List Char} (htop : IsTopLevel Char.isAlpha top) :
    Hostname Char.isAlpha where
  labels := [List.replicate (n + 1) 'a']
  top := top
  labels_ne_nil := List.cons_ne_nil _ _
  isLabel := by
    intro label hlabel
    rw [List.mem_singleton.mp hlabel]
    refine ⟨by simp, fun c hc ↦ ?_, by simp [List.head?_replicate],
      by simp [List.getLast?_replicate]⟩
    rw [List.eq_of_mem_replicate hc]
    decide
  isTopLevel := htop

theorem chars_plainHost (n : Nat) {top : List Char} (htop : IsTopLevel Char.isAlpha top) :
    (plainHost n htop).chars = List.replicate (n + 1) 'a' ++ '.' :: top := by
  rw [Hostname.chars, plainHost, dotted_cons, dotted_nil, List.append_assoc, List.cons_append,
    List.nil_append]

/-- In small letters the host is found as it stands. -/
theorem hosts_plainHost (n : Nat) {top : List Char} (htop : IsTopLevel Char.isAlpha top)
    (hsmall : top.map Char.toLower = top) :
    hosts (String.ofList (plainHost n htop).chars) = [String.ofList (plainHost n htop).chars] := by
  have hascii : ∀ c ∈ (plainHost n htop).chars, c.toNat < 128 := by
    intro c hc
    rcases Hostname.of_mem_chars hc with hletter | hdigit | rfl | rfl
    · exact toNat_lt_of_isAlpha hletter
    · exact toNat_lt_of_isDigit hdigit
    · decide
    · decide
  have hlower : lowerChars (plainHost n htop).chars = (plainHost n htop).chars := by
    rw [lowerChars_of_toNat_lt hascii, chars_plainHost, List.map_append, List.map_cons, hsmall,
      List.map_replicate]
    rfl
  have hhosts := hosts_chars (keepsHosts_isAlpha.map (plainHost n htop))
  rwa [keepsHosts_isAlpha.chars_map, List.map_id, hlower] at hhosts

/-- There is no `www.` to take off. -/
theorem namedHosts_plainHost (n : Nat) {top : List Char} (htop : IsTopLevel Char.isAlpha top)
    (hsmall : top.map Char.toLower = top) :
    namedHosts (String.ofList (plainHost n htop).chars) =
      [String.ofList (plainHost n htop).chars] := by
  have hwww : ¬ "www.".toList <+: (plainHost n htop).chars := by
    rw [chars_plainHost, List.replicate_succ]
    rintro ⟨rest, hrest⟩
    have hfirst : 'w' = 'a' := (List.cons.inj hrest).1
    revert hfirst
    decide
  rw [namedHosts, hosts_plainHost n htop hsmall, List.map_singleton, String.toList_ofList,
    withoutWww_of_not_prefix hwww]

theorem lastTwo_plainHost (n : Nat) {top : List Char} (htop : IsTopLevel Char.isAlpha top) :
    lastTwo (plainHost n htop).chars = [top, List.replicate (n + 1) 'a'] := by
  have hfirst : '.' ∉ List.replicate (n + 1) 'a' := by
    rw [List.mem_replicate]
    exact fun h ↦ absurd h.2 (by decide)
  have hlast : '.' ∉ top := by
    intro hmem
    have hletter := htop.letters '.' hmem
    revert hletter
    decide
  rw [lastTwo, chars_plainHost, labelsOf_append, labelsOf_of_not_mem hfirst,
    labelsOf_of_not_mem hlast]
  rfl

/-- A host with the same last two labels has a label of the given length. -/
theorem exists_label_of_sameDomain {n : Nat} {top : List Char}
    {htop : IsTopLevel Char.isAlpha top} {other : String}
    (h : SameDomain (String.ofList (plainHost n htop).chars) other) :
    ∃ label ∈ labelsOf other.toList, label.length = n + 1 := by
  rw [SameDomain, toList_toLower, toList_toLower, lastTwo_map_toLower, lastTwo_map_toLower,
    String.toList_ofList, lastTwo_plainHost] at h
  have hmem : (List.replicate (n + 1) 'a').map Char.toLower ∈
      (lastTwo other.toList).map (List.map Char.toLower) := by
    rw [← h]
    exact List.mem_cons_of_mem _ List.mem_cons_self
  obtain ⟨label, hlabel, hlower⟩ := List.mem_map.mp hmem
  refine ⟨label, List.mem_reverse.mp (List.mem_of_mem_take hlabel), ?_⟩
  have hlength := congrArg List.length hlower
  rwa [List.length_map, List.length_map, List.length_replicate] at hlength

/-- With a top-level part among the banned hosts, everything below it is told to be banned. -/
theorem exists_check_plainHost (n : Nat) {top : List Char} (htop : IsTopLevel Char.isAlpha top)
    (hsmall : top.map Char.toLower = top) (hbanned : String.ofList top ∈ r.bannedHosts) :
    ∃ site : String, r.check { content := String.ofList (plainHost n htop).chars } {} =
      .ok (some (r.settings.violation s!"Sent a link to a banned website: `{site}`")) := by
  have hcovers : r.IsBanned (String.ofList (plainHost n htop).chars) :=
    ⟨_, hbanned, (plainHost n htop).covers_top⟩
  obtain ⟨site, hsite⟩ := hcovers.exists_nearest
  refine ⟨site, ?_⟩
  rw [check, namedHosts_plainHost n htop hsmall]
  exact judgeAll_cons_of_decides (.banned hsite)

/-- For every list of bare hostnames. What is blocked has the last two labels of an entry, exactly
if no entry is `www.` and a top-level part. -/
theorem blocksOnlyListed_iff (h : ∀ entry ∈ r.bannedWebsites, IsBareHostname entry) :
    r.BlocksOnlyListed ↔ ∀ entry ∈ r.bannedWebsites, ¬ IsWwwTopLevel entry := by
  constructor
  · intro hlisted entry hentry hwww
    obtain ⟨⟨top, hlower⟩, htop⟩ := hwww
    rw [← hlower] at htop
    have hsmall : top.map Char.toLower = top := by
      have htwice := toLower_map_toLower entry.toList
      rw [← toList_toLower, ← hlower, List.map_append] at htwice
      exact List.append_cancel_left htwice
    have hbare : bareHost entry = String.ofList top := by
      rw [(h entry hentry).bareHost_eq, ← hlower]
      rfl
    have hbanned : String.ofList top ∈ r.compile.bannedHosts := by
      refine mem_bannedHosts_compile_iff.mpr ⟨?_, entry, hentry, hbare⟩
      rw [Ne, String.ofList_eq_empty_iff]
      exact htop.ne_nil
    -- below the top-level part there is a host whose first label occurs in no entry
    obtain ⟨n, hn⟩ := exists_length_ne (r.bannedWebsites.flatMap (labelsOf ·.toList))
    obtain ⟨site, hsite⟩ := exists_check_plainHost n htop hsmall hbanned
    obtain ⟨host, hhost, other, hother, hsame⟩ := hlisted _ _ site hsite
    rw [hosts_plainHost n htop hsmall, List.mem_singleton] at hhost
    subst hhost
    obtain ⟨label, hlabel, hlength⟩ := exists_label_of_sameDomain hsame
    exact hn label (List.mem_flatMap.mpr ⟨other, hother, hlabel⟩) hlength
  · intro hplain m state site hcheck
    obtain ⟨host, hhost, banned, hbanned, hcovers⟩ := exists_covers_of_check hcheck
    obtain ⟨-, entry, hentry, rfl⟩ := mem_bannedHosts_compile_iff.mp hbanned
    refine ⟨host, hhost, entry, hentry, sameDomain_of_covers (h entry hentry) hcovers ?_⟩
    obtain ⟨raw, hraw, rfl⟩ := List.mem_map.mp hhost
    obtain ⟨name, rfl⟩ := hostname_of_mem_rawHosts hraw
    rw [lowerChars_of_isHostChar name.isHostChar, ← keepsHosts_smallChar.chars_map] at hcovers
    by_contra hone
    exact hplain entry hentry (isWwwTopLevel_of_covers (h entry hentry) hcovers (by omega))

/-- Capitals and `www.` in front of two labels do no harm. -/
theorem blocksOnlyListed_two_labels :
    (∀ entry ∈ ["Bad.example", "www.other.net"], IsBareHostname entry) ∧
      BlocksOnlyListed { bannedWebsites := ["Bad.example", "www.other.net"] } := by
  have hbare : ∀ entry ∈ ["Bad.example", "www.other.net"], IsBareHostname entry := by
    decide +kernel
  exact ⟨hbare, (blocksOnlyListed_iff hbare).mpr (by decide +kernel)⟩

/-- What is left of `www.com` is `com`, with which `example.com` is blocked. -/
theorem not_blocksOnlyListed_www_com :
    let r : SitesRule := { settings := .enabledWith .ban 10, bannedWebsites := ["www.com"] }
    (∀ entry ∈ r.bannedWebsites, IsBareHostname entry) ∧
      r.compile.check { content := "example.com" } {} =
        .ok (some ⟨.ban, "Sent a link to a banned website: `com`"⟩) ∧
      ¬ r.BlocksOnlyListed := by
  intro r
  have hcheck : r.compile.check { content := "example.com" } {} =
      .ok (some ⟨.ban, "Sent a link to a banned website: `com`"⟩) := by
    decide +kernel
  refine ⟨by decide +kernel, hcheck, fun hlisted ↦ ?_⟩
  have hnone : ¬ ∃ host ∈ hosts "example.com", ∃ entry ∈ r.bannedWebsites,
      SameDomain host entry := by
    decide +kernel
  exact hnone (hlisted _ _ "com" hcheck)

end SitesRule

end GuildModeration
