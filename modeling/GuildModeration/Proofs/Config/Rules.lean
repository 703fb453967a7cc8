import GuildModeration.Proofs.Config.Records

/-!
# Ways of writing a rule

The shared settings of a rule stand beside its own fields in one record, and they are read from the
values of all fields but its own. So every rule is read in the same two steps, and
`RuleSettings.yields_ruleFields?` makes both: the unknown fields must have values, and if they do,
the shared settings are what the record gives. What is left to each rule is its own fields.
-/

namespace GuildModeration

open GuildModeration.Yaml

variable {d : Document} {n : Node}

/-! ## The shared settings -/

namespace RuleSettings

/-- The fields of the settings that all rules share. -/
def forms (s : RuleSettings) : List FieldForm :=
  let initial : RuleSettings := {}
  [.exact "enabled" (flagNode s.enabled) (s.enabled = initial.enabled),
    ⟨["punishment"], (·.IsText s.punishment.name), s.punishment = initial.punishment⟩,
    .exact "mute_duration" (numberNode s.muteMinutes.toNat) (s.muteMinutes = initial.muteMinutes),
    .exact "ignore_role" ((s.exemptRole.map fun role ↦ numberNode role.toNat).getD (.plain "null"))
      (s.exemptRole = initial.exemptRole),
    .exact "ignore_channels" (.ofList (s.exemptChannels.map fun c ↦ numberNode c.toNat))
      (s.exemptChannels = initial.exemptChannels)]

/-- A rule with these settings and some fields of its own. -/
def formWith (s : RuleSettings) (own : List FieldForm) (h : FieldForm.Distinct (s.forms ++ own)) :
    RecordForm :=
  ⟨s.forms ++ own, h⟩

variable {s : RuleSettings} {own : List FieldForm} {hd : FieldForm.Distinct (s.forms ++ own)}
  {Fits : Node → Prop} {fs : Fields Node} {vs : Fields Value}

/-- The number of an optional role, or null. -/
theorem value?_exemptRole (role : Option RoleId) :
    ∃ v, d.value? innerDepth ((role.map fun id ↦ numberNode id.toNat).getD (.plain "null")) =
      some v ∧ optionalWord64OfValue? v = some role := by
  cases role with
  | none => exact ⟨.null, Document.value?_scalar _, rfl⟩
  | some id =>
    refine ⟨.natural id.toNat, value?_numberNode id.toNat_lt, ?_⟩
    rw [optionalWord64OfValue?, word64OfValue?_natural, Option.map_some]
    exact nofun

/-- Every shared setting is written as a node that has a value. -/
theorem hasValue_of_mem_forms {form : FieldForm} (hform : form ∈ s.forms) {node : Node}
    (hnode : form.Stands node) : d.HasValue node := by
  simp only [forms, List.mem_cons, List.not_mem_nil, or_false] at hform
  rw [Document.HasValue, Option.isSome_iff_exists]
  rcases hform with rfl | rfl | rfl | rfl | rfl
  · exact ⟨_, hnode ▸ value?_flagNode _⟩
  · exact ⟨_, Node.IsText.value? hnode⟩
  · exact ⟨_, hnode ▸ value?_numberNode (Nat.lt_trans s.muteMinutes.toNat_lt (by decide))⟩
  · exact (value?_exemptRole s.exemptRole).imp fun _ h ↦ hnode ▸ h.1
  · exact ⟨_, hnode ▸ value?_ofList_numberNode _⟩

/-- A shared setting is read from the values of all fields but a rule's own. -/
theorem get?_of_spells (h : fs.Spells (s.formWith own hd) Fits)
    (hvalues : Fields.values? d (fs.without (own.flatMap (·.names))) = some vs)
    {form : FieldForm} (hform : form ∈ s.forms) {β : Type} {default value : β}
    {read : Value → Option β}
    (hread : ∀ node, form.Stands node → ∃ v, d.value? innerDepth node = some v ∧
      read v = some value)
    (hdefault : form.IsDefault → value = default) :
    vs.get? form.names default read = some value := by
  have hown : ∀ name ∈ form.names, name ∉ own.flatMap (·.names) := by
    intro name hname hmem
    rw [FieldForm.Distinct, List.flatMap_append] at hd
    exact (List.nodup_append.mp hd).2.2 name (List.mem_flatMap.mpr ⟨form, hform, hname⟩) name
      hmem rfl
  rw [Fields.get?_of_values? hvalues, Fields.get?_without hown]
  refine h.get?_eq (List.mem_append_left _ hform) (fun node hnode ↦ ?_) hdefault
  obtain ⟨v, hv, hvalue⟩ := hread node hnode
  rw [hv, Option.bind_some, hvalue]

theorem ofFields?_of_spells (h : fs.Spells (s.formWith own hd) Fits)
    (hvalues : Fields.values? d (fs.without (own.flatMap (·.names))) = some vs) :
    RuleSettings.ofFields? vs = some s := by
  let initial : RuleSettings := {}
  have henabled : vs.get? ["enabled"] initial.enabled Value.flag? = some s.enabled := by
    refine get?_of_spells h hvalues (.head _) ?_ id
    rintro node rfl
    exact ⟨_, value?_flagNode _, rfl⟩
  have hpunishment : vs.get? ["punishment"] initial.punishment Severity.ofValue? =
      some s.punishment := by
    refine get?_of_spells h hvalues (.tail _ (.head _)) (fun node hnode ↦ ?_) id
    exact ⟨_, Node.IsText.value? hnode, Severity.ofName?_name _⟩
  have hminutes : vs.get? ["mute_duration"] initial.muteMinutes word32OfValue? =
      some s.muteMinutes := by
    refine get?_of_spells h hvalues (.tail _ (.tail _ (.head _))) ?_ id
    rintro node rfl
    exact ⟨_, value?_numberNode (Nat.lt_trans s.muteMinutes.toNat_lt (by decide)),
      word32OfValue?_natural _⟩
  have hrole : vs.get? ["ignore_role"] initial.exemptRole optionalWord64OfValue? =
      some s.exemptRole := by
    refine get?_of_spells h hvalues (.tail _ (.tail _ (.tail _ (.head _)))) ?_ id
    rintro node rfl
    exact value?_exemptRole _
  have hchannels : vs.get? ["ignore_channels"] initial.exemptChannels word64sOfValue? =
      some s.exemptChannels := by
    refine get?_of_spells h hvalues (.tail _ (.tail _ (.tail _ (.tail _ (.head _))))) ?_ id
    rintro node rfl
    exact ⟨_, value?_ofList_numberNode _, word64sOfValue?_natural _⟩
  rw [ofFields?]
  dsimp only
  rw [henabled, hpunishment, hminutes, hrole, hchannels]
  rfl

/-- A rule is read exactly if its unknown fields have values. -/
theorem yields_ruleFields? (h : n.Spells (s.formWith own hd) Fits) {α : Type} {rule : α}
    {build : Fields Node × Fields Value → Option α}
    (hbuild : ∀ fs rest, fs.Spells (s.formWith own hd) Fits →
      RuleSettings.ofFields? rest = some s → build (fs, rest) = some rule) :
    Yields (ruleFields? d (own.flatMap (·.names)) n >>= build)
      (n.Spells (s.formWith own hd) d.HasValue) rule := by
  obtain ⟨fs, hfs, hspells⟩ := h
  have hisSome : (Fields.values? d (fs.without (own.flatMap (·.names)))).isSome = true ↔
      n.Spells (s.formWith own hd) d.HasValue := by
    rw [hfs.spells_iff]
    refine Fields.isSome_values?_without hspells (fun name hname ↦ ?_) fun form hform ↦ ?_
    · obtain ⟨form, hform, hmem⟩ := List.mem_flatMap.mp hname
      exact ⟨form, List.mem_append_right _ hform, hmem⟩
    · rcases List.mem_append.mp hform with hform | hform
      · exact .inr fun node ↦ hasValue_of_mem_forms hform
      · exact .inl fun name hname ↦ List.mem_flatMap.mpr ⟨form, hform, hname⟩
  have hread : ruleFields? d (own.flatMap (·.names)) n =
      (Fields.values? d (fs.without (own.flatMap (·.names)))).map fun rest ↦ (fs, rest) := by
    rw [ruleFields?, hfs.fields?]
    cases hvalues : Fields.values? d (fs.without (own.flatMap (·.names))) <;>
      exact congrArg (· >>= _) hvalues
  rw [hread]
  refine Yields.congr ?_ hisSome
  cases hvalues : Fields.values? d (fs.without (own.flatMap (·.names))) with
  | none => exact ⟨nofun, fun _ ↦ rfl⟩
  | some rest =>
    exact .of_eq_some (hbuild fs rest hspells (ofFields?_of_spells hspells hvalues)) rfl

/-- The names of the shared settings. -/
def fieldNames : List String :=
  ["enabled", "punishment", "mute_duration", "ignore_role", "ignore_channels"]

theorem forall₂_toFields (s : RuleSettings) :
    List.Forall₂ (fun form f ↦ f.1 ∈ form.names ∧ form.Stands f.2) s.forms s.toFields :=
  .cons ⟨.head _, rfl⟩ (.cons ⟨.head _, .inl rfl⟩ (.cons ⟨.head _, rfl⟩
    (.cons ⟨.head _, rfl⟩ (.cons ⟨.head _, rfl⟩ .nil))))

end RuleSettings

/-! ## The rules -/

namespace SpamRule

/-- The fields of the rule. -/
def form (r : SpamRule) : RecordForm :=
  let initial : SpamRule := {}
  r.settings.formWith
    [.exact "num_messages" (numberNode r.maxMessages.toNat) (r.maxMessages = initial.maxMessages),
      .exact "within_seconds" (numberNode r.withinSeconds.toNat)
        (r.withinSeconds = initial.withinSeconds)]
    (by simp [FieldForm.Distinct, RuleSettings.forms, FieldForm.exact])

theorem spells_toNode (r : SpamRule) (Fits : Node → Prop) : r.toNode.Spells r.form Fits :=
  Yaml.spells_ofFields (RuleSettings.fieldNames ++ ["num_messages", "within_seconds"]) rfl rfl
    (List.rel_append r.settings.forall₂_toFields
      (.cons ⟨.head _, rfl⟩ (.cons ⟨.head _, rfl⟩ .nil)))

theorem yields_ofNode? {r : SpamRule} {Fits : Node → Prop} (h : n.Spells r.form Fits) :
    Yields (SpamRule.ofNode? d n) (n.Spells r.form d.HasValue) r := by
  let initial : SpamRule := {}
  refine RuleSettings.yields_ruleFields? h fun fs rest hfs hrest ↦ ?_
  have hmessages : fs.get? ["num_messages"] initial.maxMessages (word32? d) =
      some r.maxMessages :=
    hfs.get?_exact (List.mem_append_right _ (.head _)) (word32?_numberNode _) id
  have hseconds : fs.get? ["within_seconds"] initial.withinSeconds (word32? d) =
      some r.withinSeconds :=
    hfs.get?_exact (List.mem_append_right _ (.tail _ (.head _))) (word32?_numberNode _) id
  dsimp only
  rw [hrest, hmessages, hseconds]
  rfl

end SpamRule

namespace InviteRule

/-- The fields of the rule. -/
def form (r : InviteRule) : RecordForm :=
  r.settings.formWith [] (by simp [FieldForm.Distinct, RuleSettings.forms, FieldForm.exact])

theorem spells_toNode (r : InviteRule) (Fits : Node → Prop) : r.toNode.Spells r.form Fits := by
  refine Yaml.spells_ofFields RuleSettings.fieldNames rfl rfl ?_
  change List.Forall₂ _ (r.settings.forms ++ []) _
  rw [List.append_nil]
  exact r.settings.forall₂_toFields

theorem yields_ofNode? {r : InviteRule} {Fits : Node → Prop} (h : n.Spells r.form Fits) :
    Yields (InviteRule.ofNode? d n) (n.Spells r.form d.HasValue) r := by
  refine RuleSettings.yields_ruleFields? h fun fs rest _ hrest ↦ ?_
  dsimp only
  rw [hrest]
  rfl

end InviteRule

namespace MentionRule

/-- The fields of the rule. The threshold goes by two names. -/
def form (r : MentionRule) : RecordForm :=
  let initial : MentionRule := {}
  r.settings.formWith
    [⟨["threshold", "treshold"], (· = numberNode r.threshold.toNat),
      r.threshold = initial.threshold⟩]
    (by simp [FieldForm.Distinct, RuleSettings.forms, FieldForm.exact])

theorem spells_toNode (r : MentionRule) (Fits : Node → Prop) : r.toNode.Spells r.form Fits :=
  Yaml.spells_ofFields (RuleSettings.fieldNames ++ ["threshold"]) rfl rfl
    (List.rel_append r.settings.forall₂_toFields (.cons ⟨.head _, rfl⟩ .nil))

theorem yields_ofNode? {r : MentionRule} {Fits : Node → Prop} (h : n.Spells r.form Fits) :
    Yields (MentionRule.ofNode? d n) (n.Spells r.form d.HasValue) r := by
  let initial : MentionRule := {}
  refine RuleSettings.yields_ruleFields? h fun fs rest hfs hrest ↦ ?_
  have hthreshold : fs.get? ["threshold", "treshold"] initial.threshold (word32? d) =
      some r.threshold := by
    refine hfs.get?_eq (List.mem_append_right _ (.head _)) ?_ id
    rintro node rfl
    exact word32?_numberNode _
  dsimp only
  rw [hrest, hthreshold]
  rfl

end MentionRule

namespace LinksRule

/-- The fields of the rule. -/
def form (r : LinksRule) : RecordForm :=
  r.settings.formWith [] (by simp [FieldForm.Distinct, RuleSettings.forms, FieldForm.exact])

theorem spells_toNode (r : LinksRule) (Fits : Node → Prop) : r.toNode.Spells r.form Fits := by
  refine Yaml.spells_ofFields RuleSettings.fieldNames rfl rfl ?_
  change List.Forall₂ _ (r.settings.forms ++ []) _
  rw [List.append_nil]
  exact r.settings.forall₂_toFields

theorem yields_ofNode? {r : LinksRule} {Fits : Node → Prop} (h : n.Spells r.form Fits) :
    Yields (LinksRule.ofNode? d n) (n.Spells r.form d.HasValue) r := by
  refine RuleSettings.yields_ruleFields? h fun fs rest _ hrest ↦ ?_
  dsimp only
  rw [hrest]
  rfl

end LinksRule

namespace WordsRule

/-- The rule without its lexicon. -/
def uncompiled (r : WordsRule) : WordsRule :=
  { r with lexicon := [] }

/-- The fields of the rule. -/
def form (r : WordsRule) : RecordForm :=
  r.settings.formWith [⟨["banned_words"], (·.IsTexts r.bannedWords), r.bannedWords = []⟩]
    (by simp [FieldForm.Distinct, RuleSettings.forms, FieldForm.exact])

theorem spells_toNode (r : WordsRule) (Fits : Node → Prop) : r.toNode.Spells r.form Fits :=
  Yaml.spells_ofFields (RuleSettings.fieldNames ++ ["banned_words"]) rfl rfl
    (List.rel_append r.settings.forall₂_toFields
      (.cons ⟨.head _, Yaml.isTexts_textsNode _⟩ .nil))

theorem yields_ofNode? {r : WordsRule} {Fits : Node → Prop} (h : n.Spells r.form Fits) :
    Yields (WordsRule.ofNode? d n) (n.Spells r.form d.HasValue) r.uncompiled := by
  refine RuleSettings.yields_ruleFields? h fun fs rest hfs hrest ↦ ?_
  have hwords : fs.get? ["banned_words"] [] d.texts? = some r.bannedWords :=
    hfs.get?_eq (List.mem_append_right _ (.head _)) (fun _ ↦ Node.IsTexts.texts?) id
  dsimp only
  rw [hrest, hwords]
  rfl

end WordsRule

namespace SitesRule

/-- The rule without its banned hosts. -/
def uncompiled (r : SitesRule) : SitesRule :=
  { r with bannedHosts := [] }

/-- The fields of the rule. -/
def form (r : SitesRule) : RecordForm :=
  r.settings.formWith
    [⟨["banned_websites"], (·.IsTexts r.bannedWebsites), r.bannedWebsites = []⟩,
      .exact "check_reputation" (flagNode r.asksReputation) (r.asksReputation = false)]
    (by simp [FieldForm.Distinct, RuleSettings.forms, FieldForm.exact])

theorem spells_toNode (r : SitesRule) (Fits : Node → Prop) : r.toNode.Spells r.form Fits :=
  Yaml.spells_ofFields (RuleSettings.fieldNames ++ ["banned_websites", "check_reputation"]) rfl rfl
    (List.rel_append r.settings.forall₂_toFields
      (.cons ⟨.head _, Yaml.isTexts_textsNode _⟩ (.cons ⟨.head _, rfl⟩ .nil)))

theorem yields_ofNode? {r : SitesRule} {Fits : Node → Prop} (h : n.Spells r.form Fits) :
    Yields (SitesRule.ofNode? d n) (n.Spells r.form d.HasValue) r.uncompiled := by
  refine RuleSettings.yields_ruleFields? h fun fs rest hfs hrest ↦ ?_
  have hwebsites : fs.get? ["banned_websites"] [] d.texts? = some r.bannedWebsites :=
    hfs.get?_eq (List.mem_append_right _ (.head _)) (fun _ ↦ Node.IsTexts.texts?) id
  have hreputation : fs.get? ["check_reputation"] false d.flag? = some r.asksReputation :=
    hfs.get?_exact (List.mem_append_right _ (.tail _ (.head _))) (flag?_flagNode _) id
  dsimp only
  rw [hrest, hwebsites, hreputation]
  rfl

end SitesRule

end GuildModeration
