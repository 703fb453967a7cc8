import Mathlib.Data.List.Pairwise
import Mathlib.Data.String.Basic
import GuildModeration.Proofs.Files.Patterns
import GuildModeration.Proofs.Text.Decimal
import GuildModeration.Store.Directory

/-!
# Documents that are listed and documents that are found

A directory of documents is read in two ways. A document is looked up under the one name that the
number of its guild gives it, and documents are listed by a pattern for names, from which the numbers
are read back. `DirectoryStore.Agrees` says that the two come to the same guilds. Below a plain path
they do so exactly if every name that a number can be read from is the name that this number gives:
numbers have other spellings, with leading zeros or behind a plus sign, and a document under one of
these is listed but not found, or is listed a second time.
-/

namespace GuildModeration

open GuildModeration.Files

/-! ## The name of a document -/

/-- The name of the document of a guild. -/
def documentName (guild : GuildId) : String :=
  s!"{guild}.yaml"

theorem toList_documentName (guild : GuildId) :
    (documentName guild).toList = guild.toNat.repr.toList ++ ".yaml".toList := by
  simp [documentName, toString]

theorem slash_notMem_documentName (guild : GuildId) : '/' ∉ (documentName guild).toList := by
  rw [toList_documentName, List.mem_append, not_or]
  exact ⟨fun hmem ↦ Text.ne_of_mem_repr hmem (by decide) rfl, by decide⟩

theorem stem_documentName (guild : GuildId) :
    DirectoryStore.stem (documentName guild) = toString guild := by
  obtain ⟨c, before, hdigits⟩ := List.exists_cons_of_ne_nil
    (mt List.reverse_eq_nil_iff.mp (Text.toList_repr_ne_nil guild.toNat))
  have hdrop : (documentName guild).toList.reverse.dropWhile (· != '.') = '.' :: c :: before := by
    rw [toList_documentName, List.reverse_append, hdigits]
    rfl
  rw [DirectoryStore.stem, hdrop]
  dsimp only
  rw [← hdigits, List.reverse_reverse, String.ofList_toList]
  rfl

theorem utf8Len_le (cs : List Char) : String.utf8Len cs ≤ 4 * cs.length := by
  induction cs with
  | nil => exact Nat.le_refl _
  | cons c cs ih =>
    rw [String.utf8Len_cons, List.length_cons, Nat.mul_succ]
    exact Nat.add_le_add ih c.utf8Size_le_four

/-- The name of a document is never too long. -/
theorem size_documentName_le (guild : GuildId) :
    (documentName guild).utf8ByteSize ≤ maxNameSize := by
  have hdigits : guild.toNat.repr.toList.length ≤ 20 := by
    rw [Nat.toList_repr, Nat.length_toDigits_le_iff (by decide) (by decide)]
    exact Nat.lt_trans guild.toNat_lt (by decide)
  have hlength : (documentName guild).toList.length ≤ 25 := by
    rw [toList_documentName, List.length_append]
    exact Nat.add_le_add_right hdigits 5
  rw [← String.ofList_toList (s := documentName guild), String.utf8ByteSize_ofList]
  exact Nat.le_trans (utf8Len_le _) (Nat.le_trans (Nat.mul_le_mul_left 4 hlength) (by decide))

theorem step_documentName {t : Tree} {p : Place} (h : t.isDirectory p = true) (guild : GuildId) :
    t.step p (documentName guild) =
      if (t.item? (p ++ [documentName guild])).isSome then .ok (p ++ [documentName guild])
      else .error .missing := by
  have hne : ∀ name, name.toList.length < 5 → documentName guild ≠ name := by
    rintro name hlt rfl
    rw [toList_documentName, List.length_append] at hlt
    exact absurd hlt (Nat.not_lt_of_le (Nat.le_add_left _ _))
  rw [Tree.step, h]
  simp [hne "" (by decide), hne "." (by decide), hne ".." (by decide),
    Nat.not_lt_of_le (size_documentName_le guild)]

namespace DirectoryStore

variable {s : DirectoryStore}

theorem guildOf?_concat (p : Place) (name : String) :
    guildOf? (p ++ [name]) = Text.word64? (stem name) := by
  rw [guildOf?, List.getLast?_concat, Option.bind_some]

theorem guildOf?_documentName (p : Place) (guild : GuildId) :
    guildOf? (p ++ [documentName guild]) = some guild := by
  rw [guildOf?_concat, stem_documentName, Text.word64?_toString]

/-! ## Looking up -/

theorem load_eq_none_iff {guild : GuildId} :
    s.load guild = .ok none ↔ s.files.readText (s.pathOf guild) = .error .missing := by
  rw [load]
  cases s.files.readText (s.pathOf guild) with
  | ok text => cases hparse : GuildConfig.parse? text <;> simp [hparse]
  | error e => cases e <;> simp

theorem walk_pathOf (s : DirectoryStore) (guild : GuildId) :
    s.files.walk (s.pathOf guild) =
      s.files.walk s.dir >>= fun p ↦ s.files.step p (documentName guild) :=
  Tree.walk_joinPath s.files s.dir (slash_notMem_documentName guild)

/-- In a directory that is not there no document is found. If the way to it does not lead on, this
is not what is said of any document. -/
theorem load_eq_none_iff_of_error {e : ReadError} (h : s.files.walk s.dir = .error e)
    (guild : GuildId) : s.load guild = .ok none ↔ e = .missing := by
  have hwalk : s.files.walk (s.pathOf guild) = .error e := by
    rw [walk_pathOf, h]
    rfl
  rw [load_eq_none_iff, Tree.readText_eq_missing_iff, hwalk]
  simp

theorem load_ne_none_of_not_isDirectory {p : Place} (h : s.files.walk s.dir = .ok p)
    (hfile : s.files.isDirectory p = false) (guild : GuildId) : s.load guild ≠ .ok none := by
  have hwalk : s.files.walk (s.pathOf guild) = .error .notDirectory := by
    rw [walk_pathOf, h]
    exact Tree.step_of_not_isDirectory hfile _
  rw [Ne, load_eq_none_iff, Tree.readText_eq_missing_iff, hwalk]
  simp

/-- A document is found exactly if something is there under its name. -/
theorem load_ne_none_iff {p : Place} (h : s.files.walk s.dir = .ok p)
    (hdir : s.files.isDirectory p = true) (guild : GuildId) :
    s.load guild ≠ .ok none ↔ (s.files.item? (p ++ [documentName guild])).isSome := by
  have hwalk : s.files.walk (s.pathOf guild) = s.files.step p (documentName guild) := by
    rw [walk_pathOf, h]
    rfl
  rw [Ne, load_eq_none_iff, Tree.readText_eq_missing_iff, hwalk, step_documentName hdir]
  cases hitem : s.files.item? (p ++ [documentName guild]) with
  | none => simp
  | some item => simp [hitem]

/-! ## Listing -/

theorem patternParts?_yaml (starts : Bool) :
    patternParts? starts "*.yaml".toList = some (NamePattern.endsIn ".yaml".toList) := by
  simp [patternParts?, NamePattern.endsIn, NamePattern.literal]

/-- What is at a place and can be taken for a document. -/
def candidates (files : Tree) (p : Place) : List Place :=
  (files.children p).filter (NamePattern.endsIn ".yaml".toList).fits

theorem mem_candidates_iff {files : Tree} {p q : Place} :
    q ∈ candidates files p ↔
      ∃ name, q = p ++ [name] ∧ (files.item? q).isSome ∧ ".yaml".toList <:+ name.toList := by
  rw [candidates, List.mem_filter, Tree.mem_children_iff]
  constructor
  · rintro ⟨⟨name, rfl, hitem⟩, hfits⟩
    rw [NamePattern.fits_concat, NamePattern.matchesChars_endsIn] at hfits
    exact ⟨name, rfl, hitem, hfits⟩
  · rintro ⟨name, rfl, hitem, hsuffix⟩
    rw [NamePattern.fits_concat, NamePattern.matchesChars_endsIn]
    exact ⟨⟨name, rfl, hitem⟩, hsuffix⟩

/-- The guilds of the candidates, each once for each of its names. -/
def listed (files : Tree) (p : Place) : List GuildId :=
  (candidates files p).filterMap guildOf?

theorem mem_listed_iff {files : Tree} {p : Place} {guild : GuildId} :
    guild ∈ listed files p ↔
      ∃ name, (files.item? (p ++ [name])).isSome ∧ ".yaml".toList <:+ name.toList ∧
        Text.word64? (stem name) = some guild := by
  rw [listed, List.mem_filterMap]
  constructor
  · rintro ⟨q, hq, hguild⟩
    obtain ⟨name, rfl, hitem, hsuffix⟩ := mem_candidates_iff.mp hq
    exact ⟨name, hitem, hsuffix, guildOf?_concat p name ▸ hguild⟩
  · rintro ⟨name, hitem, hsuffix, hguild⟩
    exact ⟨p ++ [name], mem_candidates_iff.mpr ⟨name, rfl, hitem, hsuffix⟩,
      (guildOf?_concat p name).trans hguild⟩

/-- Below a plain path that is what is listed, in another order. -/
theorem knownGuilds_of_isPlain (h : IsPlain s.dir.toList) :
    ∃ guilds, s.knownGuilds = .ok guilds ∧
      guilds.Perm (match s.files.walk s.dir with
        | .ok p => if s.files.isDirectory p then listed s.files p else []
        | .error _ => []) := by
  obtain ⟨p, hparse, hglob⟩ := Tree.glob_joinPath s.files h (by decide) patternParts?_yaml
  refine ⟨_, by rw [knownGuilds, hparse], ?_⟩
  refine (List.mergeSort_perm _ _).trans (List.Perm.of_eq ?_)
  rw [hglob]
  cases s.files.walk s.dir with
  | error e => rfl
  | ok place =>
    dsimp only
    split <;> rfl

/-! ## Names and numbers -/

/-- Every document at the place that is named by a number is named as the number is written. -/
def NamesAsWritten (files : Tree) (p : Place) : Prop :=
  ∀ name guild, (files.item? (p ++ [name])).isSome → ".yaml".toList <:+ name.toList →
    Text.word64? (stem name) = some guild → name = documentName guild

theorem documentName_mem_candidates {files : Tree} {p : Place} {guild : GuildId}
    (h : (files.item? (p ++ [documentName guild])).isSome) :
    p ++ [documentName guild] ∈ candidates files p := by
  refine mem_candidates_iff.mpr ⟨documentName guild, rfl, h, ?_⟩
  rw [toList_documentName]
  exact List.suffix_append _ _

/-- No guild is listed twice if there is one name for each. -/
theorem NamesAsWritten.nodup_listed {files : Tree} {p : Place} (h : NamesAsWritten files p) :
    (listed files p).Nodup := by
  rw [listed, List.Nodup, List.pairwise_filterMap]
  refine ((Tree.nodup_children files p).filter _).imp_of_mem ?_
  rintro q q' hq hq' hne guild hguild _ hguild' rfl
  obtain ⟨name, rfl, hitem, hsuffix⟩ := mem_candidates_iff.mp hq
  obtain ⟨name', rfl, hitem', hsuffix'⟩ := mem_candidates_iff.mp hq'
  rw [guildOf?_concat] at hguild hguild'
  refine hne ?_
  rw [h name guild hitem hsuffix hguild, h name' guild hitem' hsuffix' hguild']

/-- A document under another spelling of its number is listed beside the one under the number. -/
theorem namesAsWritten_of_nodup {files : Tree} {p : Place} (hnodup : (listed files p).Nodup)
    (hfound : ∀ guild ∈ listed files p, (files.item? (p ++ [documentName guild])).isSome) :
    NamesAsWritten files p := by
  intro name guild hitem hsuffix hguild
  have hname : p ++ [name] ∈ candidates files p := mem_candidates_iff.mpr ⟨name, rfl, hitem, hsuffix⟩
  have hdocument := documentName_mem_candidates
    (hfound guild (mem_listed_iff.mpr ⟨name, hitem, hsuffix, hguild⟩))
  rw [listed, List.Nodup, List.pairwise_filterMap] at hnodup
  have : Std.Symm fun q q' : Place ↦
      ∀ g, guildOf? q = some g → ∀ g', guildOf? q' = some g' → g ≠ g' :=
    ⟨fun _ _ h g hg g' hg' ↦ (h g' hg' g hg).symm⟩
  by_contra hne
  refine hnodup.forall hname hdocument ?_ guild ?_ guild (guildOf?_documentName p guild) rfl
  · rw [Ne, List.append_cancel_left_eq, List.cons.injEq]
    exact fun h ↦ hne h.1
  · rw [guildOf?_concat, hguild]

/-- The names are as written exactly if the guilds that are listed, none of them twice, are those
whose documents are there. -/
theorem namesAsWritten_iff {files : Tree} {p : Place} :
    NamesAsWritten files p ↔ (listed files p).Nodup ∧
      ∀ guild, guild ∈ listed files p ↔ (files.item? (p ++ [documentName guild])).isSome := by
  constructor
  · refine fun h ↦ ⟨h.nodup_listed, fun guild ↦ ⟨fun hlisted ↦ ?_, fun hitem ↦ ?_⟩⟩
    · obtain ⟨name, hitem, hsuffix, hguild⟩ := mem_listed_iff.mp hlisted
      exact h name guild hitem hsuffix hguild ▸ hitem
    · exact List.mem_filterMap.mpr
        ⟨_, documentName_mem_candidates hitem, guildOf?_documentName p guild⟩
  · rintro ⟨hnodup, hsame⟩
    exact namesAsWritten_of_nodup hnodup fun guild ↦ (hsame guild).mp

/-! ## Agreement -/

/-- Enumerating documents and looking them up come to the same: a guild is listed, and once, exactly
if a document is found for it, readable or not. -/
def Agrees (s : DirectoryStore) : Prop :=
  ∃ guilds, s.knownGuilds = .ok guilds ∧ guilds.Nodup ∧
    ∀ guild, guild ∈ guilds ↔ s.load guild ≠ .ok none

/-- No guild is listed without a directory, so that none may have a document either. -/
theorem agrees_iff_of_nil (h : s.knownGuilds = .ok []) :
    s.Agrees ↔ ∀ guild, s.load guild = .ok none := by
  constructor
  · rintro ⟨guilds, hknown, -, hmem⟩ guild
    rw [h, Except.ok.injEq] at hknown
    subst hknown
    exact Classical.not_not.mp fun hload ↦ List.not_mem_nil ((hmem guild).mpr hload)
  · intro hload
    exact ⟨[], h, List.nodup_nil, fun guild ↦ by simp [hload guild]⟩

/-- One document, named as its number is written, beside a text that is none. -/
def sample : DirectoryStore where
  dir := "cfg/"
  files := (({} : Tree).put "cfg/7.yaml" (.file [])).put "cfg/notes.txt" (.file [])

/-- A document that is named by a number with leading zeros, and nothing else. -/
def padded : DirectoryStore where
  dir := "cfg"
  files := ({} : Tree).put "cfg/007.yaml" (.file [])

/-- A document in a directory with brackets in its name, which stand for another name in patterns. -/
def bracketed : DirectoryStore where
  dir := "[a]"
  files := ({} : Tree).put "[a]/7.yaml" (.file [])

end DirectoryStore

end GuildModeration
