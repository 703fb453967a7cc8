import GuildModeration.Text.Caseless
import GuildModeration.Text.Lowercase

/-!
# Hosts named in a text

A host is a chain of labels, each closed by a dot, and a top-level part of letters that ends a
word. Hosts are found from left to right and do not overlap. An address scheme right in front of a
host is passed over with it, so that a scheme is never itself read as the start of a host.

Within a match the choices are forced: the characters of a label never include the dot, and a
top-level part that stops short of its last letter does not end a word. What is left is the number
of labels, and the longest chain that leads to a top-level part wins.
-/

namespace GuildModeration.Link

open GuildModeration.Text

/-! ## Labels -/

/-- The character can stand inside a label. -/
def isLabelChar (c : Char) : Bool :=
  isLatinOrDigit c || c == '-'

/-- The characters form a label: there are some, and the first and the last are no hyphens. -/
def isLabel (cs : List Char) : Bool :=
  (cs.head?.map isLatinOrDigit).getD false && (cs.getLast?.map isLatinOrDigit).getD false

/-- The label at the front of a text with its dot, and the text after the dot. -/
def label? (cs : List Char) : Option (List Char × List Char) :=
  let label := cs.takeWhile isLabelChar
  match cs.dropWhile isLabelChar with
  | '.' :: rest => if isLabel label then some (label ++ ['.'], rest) else none
  | _ => none

theorem append_of_label? {cs label rest : List Char} (h : label? cs = some (label, rest)) :
    label ++ rest = cs := by
  unfold label? at h
  simp only at h
  split at h
  · rename_i tail htail
    split at h
    · simp only [Option.some.injEq, Prod.mk.injEq] at h
      obtain ⟨rfl, rfl⟩ := h
      rw [List.append_assoc, List.singleton_append, ← htail, List.takeWhile_append_dropWhile]
    · cases h
  · cases h

theorem length_lt_of_label? {cs label rest : List Char} (h : label? cs = some (label, rest)) :
    rest.length < cs.length := by
  unfold label? at h
  simp only at h
  split at h
  · rename_i tail htail
    split at h
    · simp only [Option.some.injEq, Prod.mk.injEq] at h
      obtain ⟨rfl, rfl⟩ := h
      have hle := (List.dropWhile_sublist (l := cs) isLabelChar).length_le
      rw [htail, List.length_cons] at hle
      omega
    · cases h
  · cases h

/-! ## Hosts -/

/-- The top-level part at the front of a text, and the text after it: all the letters there, 2 to
63 of them, with no word character behind. -/
def topLevel? (cs : List Char) : Option (List Char × List Char) :=
  let letters := cs.takeWhile isLatin
  let rest := cs.dropWhile isLatin
  if 2 ≤ letters.length ∧ letters.length ≤ 63 ∧ startsWord rest = false then some (letters, rest)
  else none

/-- What continues a host after a label: as many further labels as lead to a top-level part, and
that part; and the text after it. -/
def hostTail? (cs : List Char) : Option (List Char × List Char) :=
  match h : label? cs with
  | none => topLevel? cs
  | some (label, rest) =>
    have : rest.length < cs.length := length_lt_of_label? h
    match hostTail? rest with
    | some (tail, after) => some (label ++ tail, after)
    | none => topLevel? cs
termination_by cs.length

/-- The host at the front of a text, and the text after it. -/
def host? (cs : List Char) : Option (List Char × List Char) :=
  (label? cs).bind fun (label, rest) ↦
    (hostTail? rest).map fun (tail, after) ↦ (label ++ tail, after)

/-! ## Schemes -/

/-- The character can stand in a scheme after its first letter. -/
def isSchemeChar (c : Char) : Bool :=
  isLatinOrDigit c || c == '+' || c == '.' || c == '-'

/-- The text after an address scheme at its front. -/
def afterScheme? (cs : List Char) : Option (List Char) :=
  match cs with
  | [] => none
  | c :: rest =>
    if isLatin c then
      match rest.dropWhile isSchemeChar with
      | ':' :: '/' :: '/' :: after => some after
      | _ => none
    else none

/-- The host of the address at the front of a text, with or without a scheme before it, and the
text after it. -/
def address? (cs : List Char) : Option (List Char × List Char) :=
  ((afterScheme? cs).bind host?).or (host? cs)

/-! ## Progress -/

private theorem length_le_of_topLevel? {cs top after : List Char}
    (h : topLevel? cs = some (top, after)) : after.length ≤ cs.length := by
  unfold topLevel? at h
  simp only at h
  split at h
  · simp only [Option.some.injEq, Prod.mk.injEq] at h
    obtain ⟨-, rfl⟩ := h
    exact (List.dropWhile_sublist _).length_le
  · cases h

theorem length_le_of_hostTail? {cs tail after : List Char}
    (h : hostTail? cs = some (tail, after)) : after.length ≤ cs.length := by
  fun_induction hostTail? cs generalizing tail after with
  | case1 cs hl => exact length_le_of_topLevel? h
  | case2 cs label rest hl hlt tail' after' ht ih =>
    simp only [Option.some.injEq, Prod.mk.injEq] at h
    obtain ⟨-, rfl⟩ := h
    exact Nat.le_of_lt (Nat.lt_of_le_of_lt (ih ht) hlt)
  | case3 cs label rest hl hlt ht ih => exact length_le_of_topLevel? h

theorem length_lt_of_host? {cs host after : List Char} (h : host? cs = some (host, after)) :
    after.length < cs.length := by
  simp only [host?, Option.bind_eq_some_iff, Option.map_eq_some_iff] at h
  obtain ⟨⟨label, rest⟩, hl, ⟨tail, after'⟩, ht, he⟩ := h
  simp only [Prod.mk.injEq] at he
  obtain ⟨-, rfl⟩ := he
  exact Nat.lt_of_le_of_lt (length_le_of_hostTail? ht) (length_lt_of_label? hl)

theorem length_lt_of_afterScheme? {cs after : List Char} (h : afterScheme? cs = some after) :
    after.length < cs.length := by
  unfold afterScheme? at h
  split at h
  · cases h
  · rename_i c rest
    split at h
    · split at h
      · rename_i tail htail
        have hle := (List.dropWhile_sublist (l := rest) isSchemeChar).length_le
        rw [htail] at hle
        simp only [Option.some.injEq] at h
        subst h
        simp only [List.length_cons] at hle ⊢
        omega
      · cases h
    · cases h

theorem length_lt_of_address? {cs host after : List Char}
    (h : address? cs = some (host, after)) : after.length < cs.length := by
  rw [address?, Option.or_eq_some_iff] at h
  rcases h with h | ⟨-, h⟩
  · obtain ⟨rest, hr, hh⟩ := Option.bind_eq_some_iff.mp h
    exact Nat.lt_trans (length_lt_of_host? hh) (length_lt_of_afterScheme? hr)
  · exact length_lt_of_host? h

/-! ## All hosts of a text -/

/-- The hosts named in a text as they are written there, from left to right. -/
def rawHosts : List Char → List (List Char)
  | [] => []
  | c :: cs =>
    match h : address? (c :: cs) with
    | some (host, after) =>
      have : after.length < (c :: cs).length := length_lt_of_address? h
      host :: rawHosts after
    | none => rawHosts cs
termination_by cs => cs.length
decreasing_by
  · assumption
  · exact Nat.lt_succ_self _

/-- The hosts named in a text in lower case, from left to right. -/
def hosts (content : String) : List String :=
  (rawHosts content.toList).map fun host ↦ String.ofList (lowerChars host)

end GuildModeration.Link
