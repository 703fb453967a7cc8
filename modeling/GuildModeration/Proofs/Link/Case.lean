import GuildModeration.Link.Address
import GuildModeration.Proofs.Link.Separation
import GuildModeration.Proofs.Text.Case

/-!
# Links in texts that differ in case

The functions that read links give back what they have read and the rest of the text. Each of them
reads the same from a text with small letters, with small letters in what it gives back
(`KeepsCase`), since it decides by classes of characters that case does not matter to. So the hosts
of the text are the same but for the case of their letters, and have the same lower case.

An address that was typed in is put into lower case before anything is cut off it. The form of a
capital sigma is decided by then, so this is no matter of reading but of lower case alone.
-/

namespace GuildModeration.Link

open GuildModeration.Text

/-! ## Characters of links -/

theorem caseBlind_isLabelChar : CaseBlind isLabelChar :=
  caseBlind_of_capitals (by decide)

theorem caseBlind_isSchemeChar : CaseBlind isSchemeChar :=
  caseBlind_of_capitals (by decide)

theorem caseBlind_isCodeChar : CaseBlind isCodeChar :=
  caseBlind_of_capitals (by decide)

theorem caseBlind_isAddressChar : CaseBlind isAddressChar :=
  caseBlind_of_capitals (by decide)

/-! ## Readers -/

/-- From a text with small letters the function reads the same, with small letters. -/
def KeepsCase (f : List Char → Option (List Char × List Char)) : Prop :=
  ∀ cs, f (cs.map Char.toLower) =
    (f cs).map (Prod.map (List.map Char.toLower) (List.map Char.toLower))

theorem isLabel_map_toLower (cs : List Char) : isLabel (cs.map Char.toLower) = isLabel cs := by
  have hblind : isLatinOrDigit ∘ Char.toLower = isLatinOrDigit := caseBlind_isLatinOrDigit.comp
  rw [isLabel, List.head?_map, List.getLast?_map, Option.map_map, Option.map_map, hblind, isLabel]

theorem keepsCase_label? : KeepsCase label? := by
  intro cs
  have htake := caseBlind_isLabelChar.takeWhile cs
  have hdrop := caseBlind_isLabelChar.dropWhile cs
  cases hrest : cs.dropWhile isLabelChar with
  | nil =>
    rw [hrest, List.map_nil] at hdrop
    rw [label?_of_not_dot (by simp [hdrop]), label?_of_not_dot (by simp [hrest]), Option.map_none]
  | cons c rest =>
    rw [hrest, List.map_cons] at hdrop
    by_cases hc : c = '.'
    · subst hc
      rw [label?_of_dot hdrop, htake, isLabel_map_toLower, label?_of_dot hrest]
      split
      · rw [Option.map_some, Prod.map_apply, List.map_append]
        rfl
      · rfl
    · have hc' : c.toLower ≠ '.' := by rwa [Ne, toLower_eq_iff (by decide)]
      rw [label?_of_not_dot (by simpa [hdrop] using hc'),
        label?_of_not_dot (by simpa [hrest] using hc), Option.map_none]

theorem keepsCase_topLevel? : KeepsCase topLevel? := by
  intro cs
  rw [topLevel?, caseBlind_isLatin.takeWhile, caseBlind_isLatin.dropWhile, List.length_map,
    startsWord_map_toLower, topLevel?]
  split <;> rfl

theorem keepsCase_hostTail? : KeepsCase hostTail? := by
  intro cs
  have hmiss : ∀ {cs}, label? cs = none → label? (cs.map Char.toLower) = none := by
    intro cs hl
    rw [keepsCase_label?, hl, Option.map_none]
  have hstep : ∀ {cs label rest}, label? cs = some (label, rest) →
      label? (cs.map Char.toLower) = some (label.map Char.toLower, rest.map Char.toLower) := by
    intro cs label rest hl
    rw [keepsCase_label?, hl, Option.map_some, Prod.map_apply]
  fun_induction hostTail? cs with
  | case1 cs hl => rw [hostTail?_of_none (hmiss hl), keepsCase_topLevel?]
  | case2 cs label rest hl _ tail after htail ih =>
    rw [hostTail?_of_some (hstep hl), ih, htail, Option.map_some, Option.map_some, Option.some_or,
      Option.map_some, Prod.map_apply, Prod.map_apply, List.map_append]
  | case3 cs label rest hl _ htail ih =>
    rw [hostTail?_of_some (hstep hl), ih, htail, keepsCase_topLevel?]
    rfl

theorem keepsCase_host? : KeepsCase host? := by
  intro cs
  rw [host?, keepsCase_label? cs, host?]
  cases label? cs with
  | none => rfl
  | some found =>
    obtain ⟨label, rest⟩ := found
    rw [Option.map_some, Prod.map_apply, Option.bind_some, Option.bind_some]
    dsimp only
    rw [keepsCase_hostTail? rest, Option.map_map, Option.map_map]
    congr 1
    funext tail
    simp only [Function.comp_apply, Prod.map_apply, Prod.map_fst, Prod.map_snd, List.map_append]

theorem afterScheme?_map_toLower (cs : List Char) :
    afterScheme? (cs.map Char.toLower) = (afterScheme? cs).map (List.map Char.toLower) := by
  cases cs with
  | nil => rfl
  | cons c cs =>
    rw [List.map_cons, afterScheme?_cons, afterScheme?_cons, caseBlind_isLatin c,
      caseBlind_isSchemeChar.dropWhile, dropCaseless?_map_toLower]
    split <;> rfl

theorem keepsCase_address? : KeepsCase address? := by
  intro cs
  rw [address?, afterScheme?_map_toLower, keepsCase_host? cs, address?]
  cases afterScheme? cs with
  | none => rfl
  | some rest =>
    rw [Option.map_some, Option.bind_some, Option.bind_some, keepsCase_host? rest]
    cases host? rest <;> rfl

/-! ## Hosts -/

theorem rawHosts_map_toLower (cs : List Char) :
    rawHosts (cs.map Char.toLower) = (rawHosts cs).map (List.map Char.toLower) := by
  fun_induction rawHosts cs with
  | case1 => rw [List.map_nil, rawHosts, List.map_nil]
  | case2 c cs host after hfound _ ih =>
    have hfound' : address? (c.toLower :: cs.map Char.toLower) =
        some (host.map Char.toLower, after.map Char.toLower) := by
      rw [← List.map_cons, keepsCase_address?, hfound, Option.map_some, Prod.map_apply]
    rw [List.map_cons, rawHosts_of_some hfound', ih, List.map_cons]
  | case3 c cs hnone ih =>
    have hnone' : address? (c.toLower :: cs.map Char.toLower) = none := by
      rw [← List.map_cons, keepsCase_address?, hnone, Option.map_none]
    rw [List.map_cons, rawHosts_of_none hnone', ih]

/-- The hosts of texts that differ in case are the same. -/
theorem hosts_eq_of_sameButCase {s t : String} (h : SameButCase s t) : hosts s = hosts t := by
  refine h.eq_of_map (f := fun cs ↦ (rawHosts cs).map (String.ofList ∘ lowerChars)) fun cs ↦ ?_
  rw [rawHosts_map_toLower, List.map_map]
  refine List.map_congr_left fun host _ ↦ ?_
  rw [Function.comp_apply, Function.comp_apply, lowerChars_map_toLower]
  rfl

/-- The bare hosts of addresses that differ in case are the same. -/
theorem bareHost_eq_of_sameButCase {s t : String} (h : SameButCase s t) :
    bareHost s = bareHost t := by
  refine h.eq_of_map (f := fun cs ↦ String.ofList (bareHostChars cs)) fun cs ↦ ?_
  rw [bareHostChars, trimChars_map_toLower, lowerChars_map_toLower, bareHostChars]

/-! ## Invites and web links -/

/-- What opens with one of some patterns and goes on in a way that case does not matter to. -/
theorem opensWith_map_toLower {openings : List (List Char)} {goesOn : List Char → Bool}
    (hgoesOn : ∀ cs, goesOn (cs.map Char.toLower) = goesOn cs) (cs : List Char) :
    opensWith openings goesOn (cs.map Char.toLower) = opensWith openings goesOn cs := by
  have hblind : goesOn ∘ List.map Char.toLower = goesOn := funext hgoesOn
  rw [opensWith, opensWith]
  congr 1
  funext opening
  rw [dropCaseless?_map_toLower, Option.map_map, hblind]

theorem startsCode_map_toLower (cs : List Char) :
    startsCode (cs.map Char.toLower) = startsCode cs := by
  cases cs with
  | nil => rfl
  | cons c cs => exact caseBlind_isCodeChar c

theorem startsAddress_map_toLower (cs : List Char) :
    startsAddress (cs.map Char.toLower) = startsAddress cs := by
  cases cs with
  | nil => rfl
  | cons c cs => exact caseBlind_isAddressChar c

theorem hasInvite_map_toLower (cs : List Char) : hasInvite (cs.map Char.toLower) = hasInvite cs :=
  anyWordStart_map_toLower (opensWith_map_toLower startsCode_map_toLower) cs

theorem hasWebLink_map_toLower (cs : List Char) :
    hasWebLink (cs.map Char.toLower) = hasWebLink cs :=
  anyWordStart_map_toLower (opensWith_map_toLower startsAddress_map_toLower) cs

end GuildModeration.Link
