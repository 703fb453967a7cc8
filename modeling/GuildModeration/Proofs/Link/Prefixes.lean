import GuildModeration.Proofs.Link.Hostname
import GuildModeration.Rule.Invite
import GuildModeration.Rule.Links

/-!
# What stands in front of a link

Web links and invites are looked for at starts of words only, and `isWordChar` takes more for a part
of a word than letters and digits: marks, joiners, and connectors such as `_`. Behind one of these
no word starts, so that the character hides the link (`found_behind_iff`).

A search in a text goes through the front part first, where it may look beyond the end of it, and
then through the rest (`anyWordStartFrom_append`). It does not look beyond a character that is in
none of the openings (`ReadsUpTo`), so that what is found in front of a link is found there
whatever the link is.
-/

namespace GuildModeration

open GuildModeration.Text

namespace Text

variable {q q' : List Char → Bool} {s : Char} {pre front rest : List Char}

/-! ## Searches in two parts -/

theorem anyWordStartFrom_mono (h : ∀ c cs, q (c :: cs) = true → q' (c :: cs) = true)
    {inWord : Bool} {cs : List Char} (hq : anyWordStartFrom q inWord cs = true) :
    anyWordStartFrom q' inWord cs = true := by
  induction cs generalizing inWord with
  | nil => exact hq
  | cons c cs ih =>
    rw [anyWordStartFrom, Bool.or_eq_true, Bool.and_eq_true] at hq ⊢
    exact hq.imp (And.imp_right (h c cs)) ih

/-- From the character on, only the character itself is looked at. -/
def ReadsUpTo (s : Char) (q : List Char → Bool) : Prop :=
  ∀ a b, q (a ++ s :: b) = q (a ++ [s])

theorem ReadsUpTo.anyWordStartFrom_append_cons (h : ReadsUpTo s q) (inWord : Bool)
    (a b : List Char) : anyWordStartFrom q inWord (a ++ s :: b) =
      (anyWordStartFrom q inWord (a ++ [s]) || anyWordStartFrom q (isWordChar s) b) := by
  have hbefore : (fun cs ↦ q (cs ++ s :: b)) = fun cs ↦ q (cs ++ [s]) := funext fun cs ↦ h cs b
  have hfront : q (s :: b) = q [s] := h [] b
  rw [anyWordStartFrom_append, hbefore, anyWordStartFrom, hfront, anyWordStartFrom_append,
    anyWordStartFrom, anyWordStartFrom, Bool.or_false, Bool.or_assoc]

theorem anyWordStartFrom_of_front (h : q front = true) (hne : front ≠ []) :
    anyWordStartFrom q false front = true := by
  obtain ⟨c, cs, rfl⟩ := List.exists_cons_of_ne_nil hne
  rw [anyWordStartFrom, h]
  rfl

theorem exists_concat_of_endsWord {cs : List Char} (h : endsWord false cs = true) :
    ∃ before last, cs = before ++ [last] ∧ isWordChar last = true := by
  rcases List.eq_nil_or_concat cs with rfl | ⟨before, last, rfl⟩
  · cases h
  · rw [List.concat_eq_append] at h ⊢
    rw [endsWord, List.getLast?_concat] at h
    exact ⟨before, last, rfl, h⟩

/-- What stands at the front of a text is found behind another text, unless that ends inside a
word. Then there is only what begins before it or behind it, if nothing begins inside it. -/
theorem anyWordStart_append_of_front (hfront : q (front ++ rest) = true)
    (hends : endsWord true front = false)
    (hinside : anyWordStartFrom (fun cs ↦ q (cs ++ rest)) true front = false)
    (hpre : ∀ c ∈ pre.getLast?, isWordChar c = true → ReadsUpTo c q) :
    anyWordStart q (pre ++ (front ++ rest)) =
      (!endsWord false pre || anyWordStart q pre || anyWordStart q rest) := by
  cases hword : endsWord false pre with
  | false =>
    have hne : front ≠ [] := by
      rintro rfl
      cases hends
    have hfound := anyWordStartFrom_of_front hfront (List.append_ne_nil_of_left_ne_nil hne rest)
    rw [anyWordStart, anyWordStartFrom_append, hword, hfound, Bool.or_true]
    rfl
  | true =>
    obtain ⟨before, last, rfl, hlast⟩ := exists_concat_of_endsWord hword
    have hreads := hpre last List.getLast?_concat hlast
    rw [List.append_assoc, List.singleton_append, anyWordStart,
      hreads.anyWordStartFrom_append_cons, hlast, anyWordStartFrom_append q true front, hinside,
      hends]
    rfl

end Text

namespace Link

variable {openings : List (List Char)} {goesOn : List Char → Bool} {c : Char}

/-! ## Openings -/

theorem dropCaseless?_append_self {opening : List Char} (h : ∀ c ∈ opening, foldCase c = c)
    (cs : List Char) : dropCaseless? opening (opening ++ cs) = some cs := by
  induction opening with
  | nil => rfl
  | cons c opening ih =>
    rw [List.forall_mem_cons] at h
    rw [List.cons_append, dropCaseless?, if_pos h.1, ih h.2]

theorem opensWith_append {opening cs : List Char} (hmem : opening ∈ openings)
    (hfold : opening.all (fun c ↦ foldCase c == c) = true) (hgoesOn : goesOn cs = true) :
    opensWith openings goesOn (opening ++ cs) = true := by
  refine List.any_eq_true.mpr ⟨opening, hmem, ?_⟩
  have hself : ∀ c ∈ opening, foldCase c = c :=
    fun c hc ↦ eq_of_beq (List.all_eq_true.mp hfold c hc)
  rw [dropCaseless?_append_self hself, Option.map_some, Option.getD_some, hgoesOn]

/-- The text begins with a character with which an opening begins. -/
def beginsLike (openings : List (List Char)) (cs : List Char) : Bool :=
  cs.head?.any fun c ↦ openings.any fun opening ↦ opening.head?.all (· == foldCase c)

theorem beginsLike_of_opensWith {cs : List Char} (h : opensWith openings goesOn (c :: cs) = true)
    (cs' : List Char) : beginsLike openings (c :: cs') = true := by
  obtain ⟨opening, hmem, hopening⟩ := List.any_eq_true.mp h
  refine List.any_eq_true.mpr ⟨opening, hmem, ?_⟩
  cases opening with
  | nil => rfl
  | cons d opening =>
    rw [dropCaseless?] at hopening
    split at hopening
    · next heq => simpa using heq.symm
    · cases hopening

/-- No opening goes across a character that is in none of them. -/
theorem readsUpTo_opensWith (hopenings : ∀ opening ∈ openings, foldCase c ∉ opening)
    (hgoesOn : ReadsUpTo c goesOn) : ReadsUpTo c (opensWith openings goesOn) := by
  intro a b
  rw [Bool.eq_iff_iff, opensWith, List.any_eq_true, opensWith, List.any_eq_true]
  refine exists_congr fun opening ↦ and_congr_right fun hmem ↦ ?_
  rw [dropCaseless?_append_cons (hopenings opening hmem),
    dropCaseless?_append_cons (hopenings opening hmem)]
  cases dropCaseless? opening a with
  | none => exact Iff.rfl
  | some rest =>
    have hrest := hgoesOn rest b
    rw [Option.map_some, Option.map_some, Option.map_some, Option.map_some, hrest]

theorem readsUpTo_startsAddress (c : Char) : ReadsUpTo c startsAddress := by
  intro a b
  cases a <;> rfl

theorem readsUpTo_startsCode (c : Char) : ReadsUpTo c startsCode := by
  intro a b
  cases a <;> rfl

/-- A character that is no letter or digit has no case. -/
theorem foldCase_of_not_isAlphanumeric (h : isAlphanumeric c = false) : foldCase c = c := by
  have hsigns : isAlphanumeric 'ſ' = true ∧ isAlphanumeric '\u212A' = true := by
    decide +kernel
  rw [foldCase]
  split
  · next hc =>
    rw [beq_iff_eq.mp hc, hsigns.1] at h
    cases h
  · split
    · next hc =>
      rw [beq_iff_eq.mp hc, hsigns.2] at h
      cases h
    · refine toLower_of_not_isUpper (Bool.eq_false_iff.mpr fun hupper ↦ ?_)
      have hletter : c.isAlphanum = (c.isUpper || c.isLower || c.isDigit) := rfl
      rw [hupper, Bool.true_or, Bool.true_or] at hletter
      rw [isAlphanumeric_of_isAlphanum hletter] at h
      cases h

/-- If it goes on with a word all the same, it is in no opening that is made of letters, digits and
signs between words. -/
theorem foldCase_not_mem {opening : List Char}
    (hopening : opening.all (fun c ↦ isAlphanumeric c || !isWordChar c) = true)
    (hc : isAlphanumeric c = false) (hword : isWordChar c = true) : foldCase c ∉ opening := by
  rw [foldCase_of_not_isAlphanumeric hc]
  intro hmem
  have h := List.all_eq_true.mp hopening c hmem
  rw [hc, hword] at h
  cases h

/-! ## Links behind a text -/

variable {pre rest opening : List Char}

/-- An opening that ends between words, and inside which nothing begins, is found behind a text
unless it stands inside a word. -/
theorem anyWordStart_append_opening (hmem : opening ∈ openings)
    (hfold : opening.all (fun c ↦ foldCase c == c) = true) (hends : endsWord true opening = false)
    (hinside : anyWordStartFrom (beginsLike openings) true opening = false)
    (hsigns : ∀ opening ∈ openings, opening.all (fun c ↦ isAlphanumeric c || !isWordChar c) = true)
    (hreads : ∀ c, ReadsUpTo c goesOn) (hpre : ∀ c ∈ pre.getLast?, isAlphanumeric c = false)
    (hrest : goesOn rest = true) :
    anyWordStart (opensWith openings goesOn) (pre ++ (opening ++ rest)) =
      (!endsWord false pre || anyWordStart (opensWith openings goesOn) pre ||
        anyWordStart (opensWith openings goesOn) rest) := by
  refine anyWordStart_append_of_front (opensWith_append hmem hfold hrest) hends ?_ ?_
  · rw [Bool.eq_false_iff]
    intro hfound
    have hlike : anyWordStartFrom (beginsLike openings) true opening = true := by
      refine anyWordStartFrom_mono (fun c cs h ↦ ?_) hfound
      rw [List.cons_append] at h
      exact beginsLike_of_opensWith h cs
    rw [hinside] at hlike
    cases hlike
  · intro c hc hword
    exact readsUpTo_opensWith (fun o ho ↦ foldCase_not_mem (hsigns o ho) (hpre c hc) hword)
      (hreads c)

theorem hasWebLink_behind {scheme : String} (hscheme : scheme ∈ ["http://", "https://"])
    (hpre : ∀ c ∈ pre.getLast?, isAlphanumeric c = false) (hc : isAddressChar c = true)
    (post : List Char) : hasWebLink (pre ++ (scheme.toList ++ c :: post)) =
      (!endsWord false pre || hasWebLink pre || hasWebLink (c :: post)) := by
  have hsigns : ∀ opening ∈ webOpenings,
      opening.all (fun c ↦ isAlphanumeric c || !isWordChar c) = true := by
    decide +kernel
  have hopening : scheme.toList ∈ webOpenings ∧
      scheme.toList.all (fun c ↦ foldCase c == c) = true ∧ endsWord true scheme.toList = false ∧
      anyWordStartFrom (beginsLike webOpenings) true scheme.toList = false := by
    revert scheme
    decide +kernel
  obtain ⟨hmem, hfold, hends, hinside⟩ := hopening
  exact anyWordStart_append_opening hmem hfold hends hinside hsigns readsUpTo_startsAddress
    hpre hc

theorem hasInvite_behind (hpre : ∀ c ∈ pre.getLast?, isAlphanumeric c = false)
    (hc : isCodeChar c = true) (post : List Char) :
    hasInvite (pre ++ ("discord.gg/".toList ++ c :: post)) =
      (!endsWord false pre || hasInvite pre || hasInvite (c :: post)) := by
  have hsigns : ∀ opening ∈ inviteOpenings,
      opening.all (fun c ↦ isAlphanumeric c || !isWordChar c) = true := by
    decide +kernel
  exact anyWordStart_append_opening (by decide +kernel) (by decide)
    (by decide +kernel) (by decide +kernel) hsigns readsUpTo_startsCode hpre hc

theorem isCodeChar_of_isAlphanum (h : c.isAlphanum = true) : isCodeChar c = true := by
  rw [Char.isAlphanum, Bool.or_eq_true] at h
  rw [isCodeChar, isLatinOrDigit]
  rcases h with h | h
  · rw [isLatin_iff.mpr (.inl h)]
    rfl
  · rw [h, Bool.or_true]
    rfl

end Link

/-! ## The rules -/

theorem LinksRule.check_eq_violation_iff {r : LinksRule} {m : Message} {state : RuleState} :
    r.check m state = .ok (some (r.settings.violation "Sent a link")) ↔
      Link.hasWebLink m.content.toList = true := by
  rw [check]
  cases Link.hasWebLink m.content.toList <;> simp

theorem InviteRule.check_eq_violation_iff {r : InviteRule} {m : Message} {state : RuleState} :
    r.check m state = .ok (some (r.settings.violation "Sent a server invite")) ↔
      Link.hasInvite m.content.toList = true := by
  rw [check]
  cases Link.hasInvite m.content.toList <;> simp

namespace Link

/-- A web address or an invite behind a text that ends in no letter or digit is a violation exactly
if the text does not end inside a word either, or there is another link or invite before it or
behind its opening. -/
theorem found_behind_iff {pre : String}
    (hpre : ∀ c ∈ pre.toList.getLast?, isAlphanumeric c = false) :
    (∀ (r : LinksRule) (m : Message) (state : RuleState), ∀ scheme ∈ ["http://", "https://"],
      ∀ (c : Char) (post : String), isBlank c = false → c ≠ '<' → c ≠ '>' →
        m.content = pre ++ scheme ++ String.singleton c ++ post →
        (r.check m state = .ok (some (r.settings.violation "Sent a link")) ↔
          endsWord false pre.toList = false ∨ hasWebLink pre.toList = true ∨
            hasWebLink (c :: post.toList) = true)) ∧
    ∀ (r : InviteRule) (m : Message) (state : RuleState) (d : Char) (post : String),
      d.isAlphanum = true → m.content = pre ++ "discord.gg/" ++ String.singleton d ++ post →
        (r.check m state = .ok (some (r.settings.violation "Sent a server invite")) ↔
          endsWord false pre.toList = false ∨ hasInvite pre.toList = true ∨
            hasInvite (d :: post.toList) = true) := by
  constructor
  · intro r m state scheme hscheme c post hblank hless hgreater hcontent
    have htext : m.content.toList = pre.toList ++ (scheme.toList ++ c :: post.toList) := by
      simp [hcontent]
    have hc : isAddressChar c = true := by
      simp [isAddressChar, hblank, hless, hgreater]
    rw [LinksRule.check_eq_violation_iff, htext, hasWebLink_behind hscheme hpre hc,
      Bool.or_eq_true, Bool.or_eq_true, Bool.not_eq_true', or_assoc]
  · intro r m state d post hd hcontent
    have htext : m.content.toList = pre.toList ++ ("discord.gg/".toList ++ d :: post.toList) := by
      simp [hcontent]
    rw [InviteRule.check_eq_violation_iff, htext,
      hasInvite_behind hpre (isCodeChar_of_isAlphanum hd), Bool.or_eq_true, Bool.or_eq_true,
      Bool.not_eq_true', or_assoc]

/-- A bracket hides nothing. -/
theorem found_behind_bracket :
    (∀ c ∈ "see (".toList.getLast?, isAlphanumeric c = false) ∧
      LinksRule.check {} { content := "see (https://a.example)" } {} =
        .ok (some ⟨.none, "Sent a link"⟩) ∧
      InviteRule.check {} { content := "see (discord.gg/x" } {} =
        .ok (some ⟨.none, "Sent a server invite"⟩) := by
  have hpre : ∀ c ∈ "see (".toList.getLast?, isAlphanumeric c = false := by
    have hlast : "see (".toList.getLast? = some '(' := by decide
    rw [hlast]
    rintro c ⟨rfl⟩
    decide
  have hends : endsWord false "see (".toList = false := by decide +kernel
  obtain ⟨hlinks, hinvites⟩ := found_behind_iff hpre
  refine ⟨hpre, ?_, ?_⟩
  · exact (hlinks {} _ {} "https://" (by decide) 'a' ".example)" (by decide) (by decide) (by decide)
      (by decide +kernel)).mpr (.inl hends)
  · exact (hinvites {} _ {} 'x' "" (by decide) (by decide +kernel)).mpr (.inl hends)

/-- A low line, as it stands around what is to be shown in italics, hides both. The host of the
address is found all the same. -/
theorem not_found_behind_low_line :
    let links : LinksRule := { settings := .enabledWith .mute 10 }
    let invites : InviteRule := { settings := .enabledWith .mute 10 }
    (∀ c ∈ "_".toList.getLast?, isAlphanumeric c = false) ∧
      links.check { content := "_" ++ "https://" ++ String.singleton 'b' ++ "ad.example/_" } {} =
        .ok none ∧
      hosts "_https://bad.example/_" = ["bad.example"] ∧
      invites.check { content := "_" ++ "discord.gg/" ++ String.singleton 'a' ++ "bc_" } {} =
        .ok none := by
  have hlast : "_".toList.getLast? = some '_' := by decide
  rw [hlast]
  refine ⟨?_, by decide +kernel, by decide +kernel, by decide +kernel⟩
  rintro c ⟨rfl⟩
  decide

end Link

end GuildModeration
