import GuildModeration.Proofs.Text.Trim
import GuildModeration.Proofs.Words.WholeWords

/-!
# Entries that find themselves

An entry of the list is looked up as a whole, while a message is looked at word by word. So an entry
that is no single word is never found, not even in a message that holds nothing else: each word of
it is shorter in lower case than the entry (`length_lowerChars_append`). An entry that is one word
is found wherever it stands as one.
-/

namespace GuildModeration

open GuildModeration.Text

namespace Text

/-- Trimming takes no word from a text. -/
theorem words_trimChars (cs : List Char) : words (trimChars cs) = words cs := by
  obtain ⟨before, after, hbefore, hafter, hcs⟩ := exists_eq_trimChars cs
  have hbefore' : ∀ c ∈ before, isAlphanumeric c = false :=
    fun c hc ↦ isAlphanumeric_of_isBlank (hbefore c hc)
  have hafter' : ∀ c ∈ after, isAlphanumeric c = false :=
    fun c hc ↦ isAlphanumeric_of_isBlank (hafter c hc)
  conv_rhs => rw [words, hcs]
  rw [runs_append_of_opens fun c hc ↦ hbefore' c (List.mem_of_getLast? hc),
    runs_append_of_closes fun c hc ↦ hafter' c (List.mem_of_head? hc),
    runs_of_forall_neg hbefore', runs_of_forall_neg hafter', List.nil_append, List.append_nil]
  rfl

/-- A run with the same lower case as the whole text is the whole text. -/
theorem eq_of_mem_runs_of_lowerChars {p : Char → Bool} {run cs : List Char} (h : run ∈ runs p cs)
    (hlower : lowerChars run = lowerChars cs) : run = cs := by
  obtain ⟨before, after, rfl, -⟩ := mem_runs_iff.mp h
  have hlength := congrArg List.length hlower
  rw [length_lowerChars_append, length_lowerChars_append] at hlength
  have hbefore : lowerChars before = [] := List.eq_nil_of_length_eq_zero (by omega)
  have hafter : lowerChars after = [] := List.eq_nil_of_length_eq_zero (by omega)
  rw [lowerChars_eq_nil_iff.mp hbefore, lowerChars_eq_nil_iff.mp hafter, List.nil_append,
    List.append_nil]

end Text

namespace WordsRule

/-- Whatever else is on the list, a message that is nothing but the entry is a violation. -/
def FindsItself (entry : String) : Prop :=
  ∀ (r : WordsRule) (m : Message) (state : RuleState), entry ∈ r.bannedWords → m.content = entry →
    ∃ v, r.compile.check m state = .ok (some v)

/-- A message is a violation if one of its words is on the list. -/
theorem exists_check_compile_iff {r : WordsRule} {m : Message} {state : RuleState} :
    (∃ v, r.compile.check m state = .ok (some v)) ↔
      ∃ word ∈ words m.content.toList, r.Lists word := by
  rw [check_compile]
  constructor
  · rintro ⟨v, hv⟩
    obtain ⟨word, hfind, -⟩ := Option.map_eq_some_iff.mp (Except.ok.inj hv)
    have hword := List.mem_of_find?_eq_some hfind
    exact ⟨word, hword, (inLexicon_iff (ne_nil_of_mem_runs hword)).mp (List.find?_some hfind)⟩
  · rintro ⟨word, hword, hlists⟩
    have hin := (inLexicon_iff (ne_nil_of_mem_runs hword)).mpr hlists
    have hsome := List.find?_isSome.mpr ⟨word, hword, hin⟩
    obtain ⟨first, hfirst⟩ := Option.isSome_iff_exists.mp hsome
    exact ⟨_, by rw [hfirst]; rfl⟩

theorem entryForm_eq (entry : String) :
    entryForm entry = String.ofList (lowerChars (trimChars entry.toList)) := by
  rw [entryForm, trim, lower_ofList]

/-- An entry finds itself exactly if it is a single word, the blanks around it aside. -/
theorem findsItself_iff {entry : String} (h : trim entry ≠ "") :
    FindsItself entry ↔ ∀ c ∈ (trim entry).toList, isAlphanumeric c = true := by
  rw [trim, String.toList_ofList]
  constructor
  · intro hfinds
    obtain ⟨word, hword, listed, hlisted, hlower⟩ := exists_check_compile_iff.mp
      (hfinds { bannedWords := [entry] } { content := entry } {} (List.mem_singleton_self _) rfl)
    rw [List.mem_singleton.mp hlisted, lower_ofList, entryForm_eq, String.ofList_inj] at hlower
    rw [← words_trimChars] at hword
    rw [← eq_of_mem_runs_of_lowerChars hword hlower]
    exact forall_mem_of_mem_runs hword
  · intro hword r m state hmem hcontent
    have hne : trimChars entry.toList ≠ [] := by
      intro hnil
      rw [trim, hnil] at h
      exact h rfl
    refine exists_check_compile_iff.mpr ⟨trimChars entry.toList, ?_, entry, hmem, ?_⟩
    · rw [hcontent, ← words_trimChars, words, runs_of_forall_pos hne hword]
      exact List.mem_singleton_self _
    · rw [lower_ofList, entryForm_eq]

/-- Blanks around a word and capitals in it do no harm. -/
theorem findsItself_padded : trim " Straße " ≠ "" ∧ FindsItself " Straße " := by
  have hne : trim " Straße " ≠ "" := by decide +kernel
  exact ⟨hne, (findsItself_iff hne).mpr (List.all_eq_true.mp (by decide +kernel))⟩

/-- Of two words in one entry neither is looked up. -/
theorem not_findsItself_two_words :
    let r : WordsRule := { settings := .enabledWith .ban 10, bannedWords := ["free nitro"] }
    trim "free nitro" ≠ "" ∧ r.compile.check { content := "free nitro" } {} = .ok none ∧
      ¬ FindsItself "free nitro" := by
  intro r
  have hcheck : r.compile.check { content := "free nitro" } {} = .ok none := by decide +kernel
  refine ⟨by decide +kernel, hcheck, fun hfinds ↦ ?_⟩
  obtain ⟨v, hv⟩ := hfinds r { content := "free nitro" } {} (List.mem_singleton_self _) rfl
  rw [hcheck] at hv
  cases hv

end WordsRule

end GuildModeration
