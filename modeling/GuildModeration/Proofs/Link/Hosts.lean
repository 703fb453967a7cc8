import GuildModeration.Proofs.Link.Harmless

/-!
# What is found as a host

The hosts of a text stand in it from left to right, one behind the other, and each of them ends a
word there (`StandIn`). They are hostnames in the letters that are read without regard to case. Of
these letters lower case leaves the small ASCII ones and the long s, the only one of them that is
small and not ASCII: the Kelvin sign becomes a plain `k`. So lower case is a matter of single
characters for a host, and its result a hostname once more.
-/

namespace GuildModeration.Link

open GuildModeration.Text

/-! ## Where the hosts stand -/

/-- The parts stand in the text from left to right, apart from each other, and each of them ends a
word there. -/
inductive StandIn : List (List Char) → List Char → Prop
  | nil (text : List Char) : StandIn [] text
  | cons {part : List Char} {parts : List (List Char)} {rest : List Char} (before : List Char) :
      startsWord rest = false → StandIn parts rest →
        StandIn (part :: parts) (before ++ part ++ rest)

theorem StandIn.cons_text {parts : List (List Char)} {text : List Char} (h : StandIn parts text)
    (c : Char) : StandIn parts (c :: text) := by
  cases h with
  | nil => exact .nil _
  | cons before hrest hparts => exact .cons (c :: before) hrest hparts

theorem rawHosts_standIn (cs : List Char) : StandIn (rawHosts cs) cs := by
  fun_induction rawHosts cs with
  | case1 => exact .nil []
  | case2 c cs host after hfound _ ih =>
    obtain ⟨before, -, -, hafter, heq⟩ := exists_of_address? hfound
    rw [heq]
    exact .cons before hafter ih
  | case3 c cs hnone ih => exact ih.cons_text c

/-! ## Hosts in lower case -/

/-- The lower case of a character of a host. -/
def smallChar (c : Char) : Char :=
  if c = '\u212A' then 'k' else c.toLower

/-- The character is a letter of a host in lower case. -/
def isSmallLatin (c : Char) : Bool :=
  c.isLower || c == 'ſ'

theorem smallChar_of_toNat_lt {c : Char} (h : c.toNat < 128) : smallChar c = c.toLower := by
  refine if_neg ?_
  rintro rfl
  revert h
  decide

theorem toNat_lt_or_of_isHostChar {c : Char} (h : isHostChar c = true) :
    c.toNat < 128 ∨ c = 'ſ' ∨ c = '\u212A' := by
  rw [isHostChar, isLabelChar, isLatinOrDigit, Bool.or_eq_true, Bool.or_eq_true, Bool.or_eq_true,
    beq_iff_eq, beq_iff_eq] at h
  rcases h with ((h | h) | rfl) | rfl
  · exact (isLatin_iff.mp h).imp_left toNat_lt_of_isAlpha
  · exact Or.inl (toNat_lt_of_isDigit h)
  · exact Or.inl (by decide)
  · exact Or.inl (by decide)

theorem lowerChar_of_isHostChar {c : Char} (h : isHostChar c = true) :
    lowerChar c = [smallChar c] := by
  rcases toNat_lt_or_of_isHostChar h with h | rfl | rfl
  · rw [lowerChar, if_pos h, smallChar_of_toNat_lt h]
  · decide +kernel
  · decide +kernel

/-- Lower case looks at each character of a host on its own. -/
theorem lowerChars_of_isHostChar {cs : List Char} (h : ∀ c ∈ cs, isHostChar c = true) :
    lowerChars cs = cs.map smallChar := by
  have hsigma : 'Σ' ∉ cs := by
    intro hmem
    have hhost := h 'Σ' hmem
    revert hhost
    decide
  rw [lowerChars_of_not_mem hsigma, List.map_eq_flatMap, List.flatMap_def, List.flatMap_def,
    List.map_congr_left fun c hc ↦ lowerChar_of_isHostChar (h c hc)]

/-- The letters of a host are small in lower case. -/
theorem keepsHosts_smallChar : KeepsHosts isLatin isSmallLatin smallChar where
  letter_of c h := by
    rcases isLatin_iff.mp h with h | rfl | rfl
    · rw [smallChar_of_toNat_lt (toNat_lt_of_isAlpha h), isSmallLatin, Bool.or_eq_true]
      exact Or.inl ((isLower_toLower c).trans h)
    · decide
    · decide
  digit c h := by
    rw [smallChar_of_toNat_lt (toNat_lt_of_isDigit h)]
    cases hc : c.isUpper with
    | true =>
      have hall : capitals.any Char.isDigit = false := by decide
      exact absurd h (List.any_eq_false.mp hall c (mem_capitals hc))
    | false => exact toLower_of_not_isUpper hc
  hyphen := by decide
  dot := by decide
  not_letter := by decide

/-! ## Hosts -/

/-- Whatever the text. The hosts that are found are, in order, the lower case of parts of it that
stand there from left to right without overlapping, each of them with the end of the text or no
word character behind it. Each host has labels, each closed by a dot, and a top-level part, in small
letters. -/
theorem hosts_standIn (content : String) :
    (∃ parts, StandIn parts content.toList ∧
      hosts content = parts.map fun part ↦ String.ofList (lowerChars part)) ∧
    ∀ host ∈ hosts content, ∃ name : Hostname isSmallLatin, host.toList = name.chars ∧
      ∀ c ∈ host.toList, isSmallLatin c = true ∨ c.isDigit = true ∨ c = '-' ∨ c = '.' := by
  refine ⟨⟨rawHosts content.toList, rawHosts_standIn content.toList, rfl⟩, fun host hhost ↦ ?_⟩
  obtain ⟨found, hfound, rfl⟩ := List.mem_map.mp hhost
  obtain ⟨name, rfl⟩ := hostname_of_mem_rawHosts hfound
  have hlower : lowerChars name.chars = (keepsHosts_smallChar.map name).chars := by
    rw [lowerChars_of_isHostChar name.isHostChar, keepsHosts_smallChar.chars_map]
  refine ⟨keepsHosts_smallChar.map name, ?_, fun c hc ↦ ?_⟩
  · rw [String.toList_ofList, hlower]
  · rw [String.toList_ofList, hlower] at hc
    exact Hostname.of_mem_chars hc

/-- A host behind a scheme, with a long s and two Kelvin signs in it, and one at the end of the
text; what stands between them ends before an underscore, which belongs to its last word. -/
theorem hosts_standIn_kelvin :
    let content := "see FTP://a.B-c.ſhop.\u212Ao\u212A/x and -d.e1.fg_ x.yz"
    hosts content = ["a.b-c.ſhop.kok", "x.yz"] ∧
      ∃ name : Hostname isSmallLatin, "a.b-c.ſhop.kok".toList = name.chars := by
  intro content
  have hhosts : hosts content = ["a.b-c.ſhop.kok", "x.yz"] := by decide +kernel
  have hmem : "a.b-c.ſhop.kok" ∈ hosts content := by
    rw [hhosts]
    exact List.mem_cons_self
  obtain ⟨name, hname, -⟩ := (hosts_standIn content).2 _ hmem
  exact ⟨hhosts, name, hname⟩

end GuildModeration.Link
