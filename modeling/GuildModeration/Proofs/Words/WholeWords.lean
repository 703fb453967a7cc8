import GuildModeration.Proofs.Text.Lowercase
import GuildModeration.Proofs.Text.Runs
import GuildModeration.Rule.Words

/-!
# Whole words

The words rule splits a message and looks for the first word of which the lower case is in the
lexicon. What that means can be said without any splitting: a part of the message counts if it is
alphanumeric, cannot be made longer on either side, and is an entry of the list but for case
(`BansAt`). The check finds such a part if there is one, and of several the one that begins first.
-/

namespace GuildModeration.WordsRule

open GuildModeration.Text

variable {r : WordsRule} {m : Message} {content : String} {before word after : List Char}

/-! ## The lexicon -/

/-- The word is on the list, whatever the case of either and the blanks around the entry. -/
def Lists (r : WordsRule) (word : List Char) : Prop :=
  ∃ entry ∈ r.bannedWords, lower (String.ofList word) = entryForm entry

/-- The lower case of the word is in the lexicon. -/
def inLexicon (r : WordsRule) (word : List Char) : Bool :=
  r.compile.lexicon.contains (lower (String.ofList word))

theorem lower_ofList (cs : List Char) :
    lower (String.ofList cs) = String.ofList (lowerChars cs) := by
  rw [lower, String.toList_ofList]

/-- Leaving out blank entries takes no word from the list. -/
theorem inLexicon_iff (h : word ≠ []) : r.inLexicon word = true ↔ r.Lists word := by
  have hlower : (!(lower (String.ofList word)).isEmpty) = true := by
    rw [lower_ofList, Bool.not_eq_true', Bool.eq_false_iff, ne_eq, String.isEmpty_iff,
      String.ofList_eq_empty_iff, lowerChars_eq_nil_iff]
    exact h
  rw [inLexicon, List.contains_iff_mem, compile, List.mem_filter, List.mem_map,
    and_iff_left hlower, Lists]
  simp only [eq_comm]

/-- The check looks for the first word of the message that is in the lexicon. -/
theorem check_compile (r : WordsRule) (m : Message) (state : RuleState) :
    r.compile.check m state = .ok (((words m.content.toList).find? r.inLexicon).map fun word ↦
      r.settings.violation s!"Sent a banned word: `{lower (String.ofList word)}`") := by
  have hfind : r.compile.find? m.content =
      ((words m.content.toList).find? r.inLexicon).map fun word ↦ lower (String.ofList word) := by
    simp only [find?, lowerWords, List.find?_map, Function.comp_def, ← lower_ofList]
    rfl
  rw [check, hfind, Option.map_map]
  rfl

/-! ## Parts of a message that count -/

/-- Between what stands before it and what stands behind it the part is a whole word of the message,
and it is on the list. -/
structure BansAt (r : WordsRule) (content : String) (before word after : List Char) : Prop where
  text_eq : content.toList = before ++ (word ++ after)
  isRun : IsRun isAlphanumeric before word after
  lists : r.Lists word

/-- No such part begins before this one. -/
structure BansFirstAt (r : WordsRule) (content : String) (before word after : List Char) : Prop
    extends BansAt r content before word after where
  first : ∀ before' word' after', r.BansAt content before' word' after' →
    before.length ≤ before'.length

theorem find?_eq_none_iff : (words content.toList).find? r.inLexicon = none ↔
    ∀ before word after, ¬ r.BansAt content before word after := by
  rw [List.find?_eq_none]
  constructor
  · intro h before word after hbans
    refine h word (mem_runs_iff.mpr ⟨before, after, hbans.text_eq, hbans.isRun⟩) ?_
    exact (inLexicon_iff hbans.isRun.ne_nil).mpr hbans.lists
  · intro h word hword hin
    obtain ⟨before, after, htext, hrun⟩ := mem_runs_iff.mp hword
    exact h before word after ⟨htext, hrun, (inLexicon_iff hrun.ne_nil).mp hin⟩

theorem find?_eq_some_iff : (words content.toList).find? r.inLexicon = some word ↔
    ∃ before after, r.BansFirstAt content before word after := by
  rw [List.find?_eq_some_iff_append]
  constructor
  · rintro ⟨hin, front, behind, hwords, hfront⟩
    obtain ⟨before, after, htext, hrun, rfl, -⟩ := runs_eq_append_cons_iff.mp hwords
    refine ⟨before, after, ⟨htext, hrun, (inLexicon_iff hrun.ne_nil).mp hin⟩, ?_⟩
    intro before' word' after' hbans
    by_contra hlt
    obtain ⟨mid, hmid, hrun'⟩ := hrun.exists_of_lt hbans.isRun
      (hbans.text_eq.symm.trans htext) (Nat.lt_of_not_le hlt)
    have hout := hfront word' (mem_runs_iff.mpr ⟨before', mid, hmid, hrun'⟩)
    rw [(inLexicon_iff hrun'.ne_nil).mpr hbans.lists] at hout
    cases hout
  · rintro ⟨before, after, hbans⟩
    refine ⟨(inLexicon_iff hbans.isRun.ne_nil).mpr hbans.lists, ?_⟩
    refine ⟨runs isAlphanumeric before, runs isAlphanumeric after, ?_, fun word' hword ↦ ?_⟩
    · rw [words, hbans.text_eq, hbans.isRun.runs_eq]
    · obtain ⟨before', mid, rfl, hrun'⟩ := mem_runs_iff.mp hword
      have hmid := hrun'.ne_nil_of_opens hbans.isRun.opens
      rw [Bool.not_eq_true', Bool.eq_false_iff]
      intro hin
      have hle := hbans.first before' word' (mid ++ (word ++ after))
        ⟨by simp only [hbans.text_eq, List.append_assoc], hrun'.append_right hmid _,
          (inLexicon_iff hrun'.ne_nil).mp hin⟩
      have hpos := List.length_pos_iff.mpr hmid
      simp only [List.length_append] at hle
      omega

/-- The check never fails, finds nothing exactly in a message without such a part, and otherwise
names the first one. -/
theorem check_compile_eq_iff_bansFirstAt (r : WordsRule) (m : Message) (state : RuleState)
    (answer : RuleAnswer) : r.compile.check m state = answer ↔
      ((∀ before word after, ¬ r.BansAt m.content before word after) ∧ answer = .ok none) ∨
      ∃ before word after, r.BansFirstAt m.content before word after ∧ answer = .ok (some
        (r.settings.violation s!"Sent a banned word: `{lower (String.ofList word)}`")) := by
  rw [check_compile]
  cases hfind : (words m.content.toList).find? r.inLexicon with
  | none =>
    have hnone := find?_eq_none_iff.mp hfind
    constructor
    · rintro rfl
      exact .inl ⟨hnone, rfl⟩
    · rintro (⟨-, rfl⟩ | ⟨before, word, after, hbans, -⟩)
      · rfl
      · exact absurd hbans.toBansAt (hnone before word after)
  | some word =>
    obtain ⟨before, after, hfirst⟩ := find?_eq_some_iff.mp hfind
    constructor
    · rintro rfl
      exact .inr ⟨before, word, after, hfirst, rfl⟩
    · rintro (⟨hnone, -⟩ | ⟨before', word', after', hbans, rfl⟩)
      · exact absurd hfirst.toBansAt (hnone before word after)
      · rw [find?_eq_some_iff.mpr ⟨before', after', hbans⟩] at hfind
        obtain rfl := Option.some.inj hfind
        rfl

end GuildModeration.WordsRule
