import GuildModeration.Link.Host
import GuildModeration.Link.Invite
import GuildModeration.Link.Web
import GuildModeration.Proofs.Link.Scheme

/-!
# Links in a text cut at a blank

A link does not reach past a blank. All that stands in one is read from left to right by functions
that give back what they have read and the rest of the text, and each of them is shown to read the
same, and to leave the blank and what is behind it in the rest, whatever is there (`StopsAt`). So
the hosts of a text are those on both sides of a blank, and an invite or a web link in a text is one
on either side.
-/

namespace GuildModeration.Link

open GuildModeration.Text

variable {s : Char}

/-! ## Characters of links -/

theorem isLabelChar_of_isBlank (h : isBlank s = true) : isLabelChar s = false := by
  have hdash := beq_false_of_ne (ne_of_isBlank h (c := '-') (by decide))
  rw [isLabelChar, isLatinOrDigit_of_isBlank h, hdash]
  rfl

theorem isSchemeChar_of_isBlank (h : isBlank s = true) : isSchemeChar s = false := by
  have hplus := beq_false_of_ne (ne_of_isBlank h (c := '+') (by decide))
  have hdot := beq_false_of_ne (ne_of_isBlank h (c := '.') (by decide))
  have hdash := beq_false_of_ne (ne_of_isBlank h (c := '-') (by decide))
  rw [isSchemeChar, isLatinOrDigit_of_isBlank h, hplus, hdot, hdash]
  rfl

theorem isCodeChar_of_isBlank (h : isBlank s = true) : isCodeChar s = false :=
  isLabelChar_of_isBlank h

theorem isAddressChar_of_isBlank (h : isBlank s = true) : isAddressChar s = false := by
  rw [isAddressChar, h]
  rfl

/-! ## Readers -/

/-- The function reads the same whatever stands from the character on, and leaves it unread. -/
def StopsAt {α : Type} (s : Char) (f : List Char → Option (α × List Char)) : Prop :=
  ∀ a b, f (a ++ s :: b) = (f a).map fun (x, rest) ↦ (x, rest ++ s :: b)

theorem label?_of_dot {cs rest : List Char} (h : cs.dropWhile isLabelChar = '.' :: rest) :
    label? cs =
      if isLabel (cs.takeWhile isLabelChar) then some (cs.takeWhile isLabelChar ++ ['.'], rest)
      else none := by
  rw [label?, h]
  rfl

theorem label?_of_not_dot {cs : List Char} (h : (cs.dropWhile isLabelChar).head? ≠ some '.') :
    label? cs = none := by
  rw [label?]
  split
  · next rest hrest =>
    rw [hrest] at h
    exact absurd rfl h
  · rfl

theorem stopsAt_label? (h : isBlank s = true) : StopsAt s label? := by
  intro a b
  have htake := takeWhile_append_cons (isLabelChar_of_isBlank h) a b
  have hdrop := dropWhile_append_cons (isLabelChar_of_isBlank h) a b
  cases hrest : a.dropWhile isLabelChar with
  | nil =>
    rw [hrest, List.nil_append] at hdrop
    rw [label?_of_not_dot, label?_of_not_dot, Option.map_none]
    · simp [hrest]
    · simpa [hdrop] using ne_of_isBlank h (c := '.') (by decide)
  | cons c rest =>
    rw [hrest, List.cons_append] at hdrop
    by_cases hc : c = '.'
    · subst hc
      rw [label?_of_dot hdrop, htake, label?_of_dot hrest]
      split <;> rfl
    · rw [label?_of_not_dot, label?_of_not_dot, Option.map_none]
      · simpa [hrest] using hc
      · simpa [hdrop] using hc

theorem stopsAt_topLevel? (h : isBlank s = true) : StopsAt s topLevel? := by
  intro a b
  have hedge : startsWord (a.dropWhile isLatin ++ s :: b) = startsWord (a.dropWhile isLatin) := by
    cases a.dropWhile isLatin with
    | nil => exact isWordChar_of_isBlank h
    | cons c rest => rfl
  rw [topLevel?, takeWhile_append_cons (isLatin_of_isBlank h),
    dropWhile_append_cons (isLatin_of_isBlank h), hedge, topLevel?]
  dsimp only
  split <;> rfl

theorem hostTail?_of_none {cs : List Char} (h : label? cs = none) :
    hostTail? cs = topLevel? cs := by
  rw [hostTail?]
  split
  · rfl
  · next hsome =>
    rw [h] at hsome
    cases hsome

theorem hostTail?_of_some {cs label rest : List Char} (h : label? cs = some (label, rest)) :
    hostTail? cs =
      ((hostTail? rest).map fun (tail, after) ↦ (label ++ tail, after)).or (topLevel? cs) := by
  rw [hostTail?]
  split
  · next hnone =>
    rw [h] at hnone
    cases hnone
  · next hsome =>
    rw [h, Option.some.injEq, Prod.mk.injEq] at hsome
    obtain ⟨rfl, rfl⟩ := hsome
    cases hostTail? rest <;> rfl

theorem stopsAt_hostTail? (h : isBlank s = true) : StopsAt s hostTail? := by
  intro a b
  have hmiss : ∀ {cs}, label? cs = none → label? (cs ++ s :: b) = none := by
    intro cs hl
    rw [stopsAt_label? h, hl, Option.map_none]
  have hstep : ∀ {cs label rest}, label? cs = some (label, rest) →
      label? (cs ++ s :: b) = some (label, rest ++ s :: b) := by
    intro cs label rest hl
    rw [stopsAt_label? h, hl, Option.map_some]
  fun_induction hostTail? a with
  | case1 cs hl => rw [hostTail?_of_none (hmiss hl), stopsAt_topLevel? h]
  | case2 cs label rest hl _ tail after htail ih =>
    rw [hostTail?_of_some (hstep hl), ih, htail]
    rfl
  | case3 cs label rest hl _ htail ih =>
    rw [hostTail?_of_some (hstep hl), ih, htail, stopsAt_topLevel? h]
    rfl

theorem stopsAt_host? (h : isBlank s = true) : StopsAt s host? := by
  intro a b
  rw [host?, stopsAt_label? h a b, host?]
  cases label? a with
  | none => rfl
  | some found =>
    obtain ⟨label, rest⟩ := found
    have htail := stopsAt_hostTail? h rest b
    dsimp only [Option.map_some, Option.bind_some]
    rw [htail]
    cases hostTail? rest <;> rfl

/-- A scheme ends with a mark that is read like any other fixed text. -/
theorem afterScheme?_cons (c : Char) (cs : List Char) :
    afterScheme? (c :: cs) =
      if isLatin c then dropCaseless? schemeMark (cs.dropWhile isSchemeChar) else none := by
  rw [afterScheme?]
  congr 1
  generalize cs.dropWhile isSchemeChar = rest
  split
  · next after => exact (dropCaseless?_schemeMark_eq_some_iff.mpr rfl).symm
  · next hnot =>
    refine (Option.eq_none_iff_forall_ne_some.mpr fun after hafter ↦ ?_).symm
    exact hnot after (dropCaseless?_schemeMark_eq_some_iff.mp hafter)

theorem afterScheme?_append_cons (h : isBlank s = true) (a b : List Char) :
    afterScheme? (a ++ s :: b) = (afterScheme? a).map (· ++ s :: b) := by
  cases a with
  | nil => rw [List.nil_append, afterScheme?_cons, isLatin_of_isBlank h]; rfl
  | cons c a =>
    have hmark : foldCase s ∉ schemeMark := by
      rw [foldCase_of_isBlank h]
      simp [schemeMark, ne_of_isBlank h (c := ':') (by decide),
        ne_of_isBlank h (c := '/') (by decide)]
    rw [List.cons_append, afterScheme?_cons, afterScheme?_cons,
      dropWhile_append_cons (isSchemeChar_of_isBlank h), dropCaseless?_append_cons hmark]
    split <;> rfl

theorem stopsAt_address? (h : isBlank s = true) : StopsAt s address? := by
  intro a b
  rw [address?, afterScheme?_append_cons h, stopsAt_host? h a b, address?]
  cases afterScheme? a with
  | none => rfl
  | some rest =>
    rw [Option.map_some, Option.bind_some, Option.bind_some, stopsAt_host? h rest b]
    cases host? rest <;> rfl

/-! ## Texts -/

theorem rawHosts_of_none {c : Char} {cs : List Char} (h : address? (c :: cs) = none) :
    rawHosts (c :: cs) = rawHosts cs := by
  rw [rawHosts]
  split
  · next hsome =>
    rw [h] at hsome
    cases hsome
  · rfl

theorem rawHosts_of_some {c : Char} {cs host after : List Char}
    (h : address? (c :: cs) = some (host, after)) :
    rawHosts (c :: cs) = host :: rawHosts after := by
  rw [rawHosts]
  split
  · next hsome =>
    rw [h, Option.some.injEq, Prod.mk.injEq] at hsome
    obtain ⟨rfl, rfl⟩ := hsome
    rfl
  · next hnone =>
    rw [h] at hnone
    cases hnone

/-- The hosts of a text are those on both sides of a blank. -/
theorem rawHosts_append_cons (h : isBlank s = true) (a b : List Char) :
    rawHosts (a ++ s :: b) = rawHosts a ++ rawHosts b := by
  fun_induction rawHosts a with
  | case1 =>
    have hnone : address? (s :: b) = none := stopsAt_address? h [] b
    rw [List.nil_append, rawHosts_of_none hnone]
    rfl
  | case2 c cs host after hfound _ ih =>
    have hfound' : address? (c :: (cs ++ s :: b)) = some (host, after ++ s :: b) := by
      rw [← List.cons_append, stopsAt_address? h, hfound, Option.map_some]
    rw [List.cons_append, rawHosts_of_some hfound', ih, List.cons_append]
  | case3 c cs hnone ih =>
    have hnone' : address? (c :: (cs ++ s :: b)) = none := by
      rw [← List.cons_append, stopsAt_address? h, hnone, Option.map_none]
    rw [List.cons_append, rawHosts_of_none hnone', ih]

/-- However a text is cut at a blank, its hosts are those of the part before the blank, followed by
those of the part behind it. So the hosts of a text are those of its parts between blanks, in order,
and each part has the hosts that it has on its own. -/
theorem hosts_append_blank :
    (∀ (a b : String) (s : Char), isBlank s = true →
      hosts (a ++ String.singleton s ++ b) = hosts a ++ hosts b) ∧
    ∀ content : String, hosts content =
      (content.toList.splitOnP isBlank).flatMap fun part ↦ hosts (String.ofList part) := by
  constructor
  · intro a b s h
    have hlist : (a ++ String.singleton s ++ b).toList = a.toList ++ s :: b.toList := by simp
    rw [hosts, hlist, rawHosts_append_cons h, List.map_append]
    rfl
  · intro content
    have hparts := eq_flatMap_splitOnP rawHosts_append_cons content.toList
    rw [hosts, hparts, List.map_flatMap]
    refine congrArg (List.flatMap · _) (funext fun part ↦ ?_)
    rw [hosts, String.toList_ofList]

/-- An em space keeps what looks like a scheme from the host behind it. -/
theorem hosts_behind_em_space : isBlank '\u2003' = true ∧
    hosts ("a.b.c ftp:" ++ String.singleton '\u2003' ++ "//Sub.Example.org:80") =
      ["sub.example.org"] := by
  have hblank : isBlank '\u2003' = true := by decide
  refine ⟨hblank, ?_⟩
  rw [hosts_append_blank.1 _ _ _ hblank]
  decide +kernel

/-- One of the openings stands at the front of the text, and what is behind it goes on with it. -/
def opensWith (openings : List (List Char)) (goesOn : List Char → Bool) (cs : List Char) : Bool :=
  openings.any fun opening ↦ ((dropCaseless? opening cs).map goesOn).getD false

/-- What opens with one of some patterns without blanks and goes on with no blank ends at one. -/
theorem endsAt_opensWith (h : isBlank s = true) {openings : List (List Char)}
    (hopenings : ∀ opening ∈ openings, opening ≠ [] ∧ opening.any isBlank = false)
    {goesOn : List Char → Bool} (hgoesOn : EndsAt s goesOn) :
    EndsAt s (opensWith openings goesOn) where
  nil := by
    rw [opensWith, List.any_eq_false]
    intro opening hmem
    obtain ⟨c, rest, rfl⟩ := List.exists_cons_of_ne_nil (hopenings opening hmem).1
    simp [dropCaseless?]
  append_cons a b := by
    rw [Bool.eq_iff_iff, opensWith, List.any_eq_true, opensWith, List.any_eq_true]
    refine exists_congr fun opening ↦ and_congr_right fun hmem ↦ ?_
    have hnot : foldCase s ∉ opening := by
      intro hs
      rw [foldCase_of_isBlank h] at hs
      have hblank : opening.any isBlank = true := List.any_eq_true.mpr ⟨s, hs, h⟩
      rw [(hopenings opening hmem).2] at hblank
      cases hblank
    rw [dropCaseless?_append_cons hnot, Option.map_map]
    cases dropCaseless? opening a with
    | none => rfl
    | some rest => rw [Option.map_some, Function.comp_apply, hgoesOn.append_cons, Option.map_some]

theorem endsAt_startsCode (h : isBlank s = true) : EndsAt s startsCode where
  nil := rfl
  append_cons a b := by
    cases a with
    | nil => exact isCodeChar_of_isBlank h
    | cons c a => rfl

theorem endsAt_startsAddress (h : isBlank s = true) : EndsAt s startsAddress where
  nil := rfl
  append_cons a b := by
    cases a with
    | nil => exact isAddressChar_of_isBlank h
    | cons c a => rfl

theorem endsAt_isInvite (h : isBlank s = true) : EndsAt s isInvite :=
  endsAt_opensWith h (by decide) (endsAt_startsCode h)

theorem endsAt_isWebLink (h : isBlank s = true) : EndsAt s isWebLink :=
  endsAt_opensWith h (by decide) (endsAt_startsAddress h)

/-- An invite in a text is one on either side of a blank. -/
theorem hasInvite_append_cons (h : isBlank s = true) (a b : List Char) :
    hasInvite (a ++ s :: b) = (hasInvite a || hasInvite b) :=
  anyWordStart_append_cons (isWordChar_of_isBlank h) (endsAt_isInvite h) a b

/-- A web link in a text is one on either side of a blank. -/
theorem hasWebLink_append_cons (h : isBlank s = true) (a b : List Char) :
    hasWebLink (a ++ s :: b) = (hasWebLink a || hasWebLink b) :=
  anyWordStart_append_cons (isWordChar_of_isBlank h) (endsAt_isWebLink h) a b

end GuildModeration.Link
