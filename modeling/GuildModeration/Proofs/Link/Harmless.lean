import GuildModeration.Link.Address
import GuildModeration.Proofs.Link.Hostname
import GuildModeration.Proofs.Text.Harmless

/-!
# Characters of hosts

What is read as a host is made of the characters of labels and of dots, whatever text it is read
from, and neither lower case nor the removal of labels adds to it. So no host has a harmful
character in it.
-/

namespace GuildModeration.Link

open GuildModeration.Text

/-- The character can stand in a host. -/
def isHostChar (c : Char) : Bool :=
  isLabelChar c || c == '.'

theorem isHarmful_of_isHostChar {c : Char} (h : isHostChar c = true) : isHarmful c = false :=
  isHarmful_of_class (by decide) h

theorem isHostChar_iff {c : Char} :
    isHostChar c = true ↔ isLatin c = true ∨ c.isDigit = true ∨ c = '-' ∨ c = '.' := by
  rw [isHostChar, isLabelChar, isLatinOrDigit, Bool.or_eq_true, Bool.or_eq_true,
    Bool.or_eq_true, beq_iff_eq, beq_iff_eq, or_assoc, or_assoc]

/-! ## Readers -/

theorem Hostname.isHostChar (h : Hostname isLatin) : ∀ c ∈ h.chars, isHostChar c = true :=
  fun _ hc ↦ isHostChar_iff.mpr (Hostname.of_mem_chars hc)

/-- The function reads nothing but characters of hosts. -/
def ReadsHostChars (f : List Char → Option (List Char × List Char)) : Prop :=
  ∀ {cs found rest}, f cs = some (found, rest) → ∀ c ∈ found, isHostChar c = true

theorem readsHostChars_address? : ReadsHostChars address? := by
  intro cs found rest h
  obtain ⟨-, host, rfl, -, -⟩ := exists_of_address? h
  exact host.isHostChar

/-! ## Hosts -/

theorem harmless_of_mem_rawHosts {cs host : List Char} (h : host ∈ rawHosts cs) :
    Harmless host := by
  fun_induction rawHosts cs with
  | case1 => cases h
  | case2 c cs first after hfound _ ih =>
    rcases List.mem_cons.mp h with rfl | h
    · exact fun c hc ↦ isHarmful_of_isHostChar (readsHostChars_address? hfound c hc)
    · exact ih h
  | case3 c cs hnone ih => exact ih h

theorem harmless_withoutWww {cs : List Char} (h : Harmless cs) : Harmless (withoutWww cs) := by
  rw [withoutWww.eq_def]
  split
  · exact fun c hc ↦ h c (by simp [hc])
  · exact h

/-- What follows a dot of a host is a part of the host. -/
theorem subset_of_mem_afterDots {cs part : List Char} (h : part ∈ afterDots cs) : part ⊆ cs := by
  fun_induction afterDots cs with
  | case1 => cases h
  | case2 rest ih =>
    rcases List.mem_cons.mp h with rfl | h
    · exact List.subset_cons_self _ _
    · exact List.subset_cons_of_subset _ (ih h)
  | case3 c rest _ ih => exact List.subset_cons_of_subset _ (ih h)

theorem harmless_of_mem_hostSuffixes {host part : String} (h : part ∈ hostSuffixes host)
    (hhost : Harmless host.toList) : Harmless part.toList := by
  rcases List.mem_cons.mp h with rfl | h
  · exact hhost
  · obtain ⟨cs, hcs, rfl⟩ := List.mem_map.mp h
    rw [String.toList_ofList]
    exact fun c hc ↦ hhost c (subset_of_mem_afterDots hcs hc)

end GuildModeration.Link
