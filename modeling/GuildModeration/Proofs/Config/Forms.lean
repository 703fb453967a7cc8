import GuildModeration.Proofs.Config.Mechanism
import GuildModeration.Proofs.Config.Rules

/-!
# Ways of writing a policy

`GuildConfig.IsForm` says that a node is a way of writing a policy. The fields of the policy, and
those of the records in it, stand in any order and under any of their names; fields with their
default may be left out, and unknown fields may stand among them. Unknown fields are not treated
alike everywhere. Beside the fields of the policy itself they are passed over, whatever they hold.
Inside the mute mechanism and inside a rule they are brought to values first, and one that has no
value, such as a number that fits no machine word, keeps the whole policy from being read.
-/

namespace GuildModeration

open GuildModeration.Yaml

namespace GuildConfig

variable {c : GuildConfig} {d : Document} {n : Node} {Fits Fits' : Node → Prop}

/-- The policy without its compiled lists. -/
def uncompiled (c : GuildConfig) : GuildConfig :=
  { c with words := c.words.uncompiled, sites := c.sites.uncompiled }

/-- The fields of the policy. The mute mechanism and the rules are records themselves, and unknown
fields in them have nodes that fit. -/
def form (Fits : Node → Prop) (c : GuildConfig) : RecordForm where
  fields :=
    let initial : GuildConfig := {}
    [.exact "guild_id" (numberNode c.guild.toNat) (c.guild = initial.guild),
      .exact "enabled" (flagNode c.enabled) (c.enabled = initial.enabled),
      ⟨["mute"], (·.Spells c.mute.form Fits), c.mute = initial.mute⟩,
      ⟨["spam"], (·.Spells c.spam.form Fits), c.spam = initial.spam⟩,
      ⟨["invite"], (·.Spells c.invite.form Fits), c.invite = initial.invite⟩,
      ⟨["mention"], (·.Spells c.mention.form Fits), c.mention = initial.mention⟩,
      ⟨["links"], (·.Spells c.links.form Fits), c.links = initial.links⟩,
      ⟨["words"], (·.Spells c.words.form Fits), c.words.uncompiled = initial.words⟩,
      ⟨["sites"], (·.Spells c.sites.form Fits), c.sites.uncompiled = initial.sites⟩]
  distinct := by simp [FieldForm.Distinct, FieldForm.exact]

/-- The node is a way of writing the policy, with nodes that fit for the unknown fields inside its
records. -/
def IsForm (Fits : Node → Prop) (c : GuildConfig) (n : Node) : Prop :=
  n.Spells (c.form Fits) fun _ ↦ True

/-- Whether unknown fields fit is a matter of the records inside the policy. -/
theorem spells_form_iff {fs : Fields Node} (h : fs.Spells (c.form Fits) fun _ ↦ True) :
    (fs.Spells (c.form Fits') fun _ ↦ True) ↔
      (∀ node ∈ fs.all ["mute"], node.Spells c.mute.form Fits') ∧
      (∀ node ∈ fs.all ["spam"], node.Spells c.spam.form Fits') ∧
      (∀ node ∈ fs.all ["invite"], node.Spells c.invite.form Fits') ∧
      (∀ node ∈ fs.all ["mention"], node.Spells c.mention.form Fits') ∧
      (∀ node ∈ fs.all ["links"], node.Spells c.links.form Fits') ∧
      (∀ node ∈ fs.all ["words"], node.Spells c.words.form Fits') ∧
      ∀ node ∈ fs.all ["sites"], node.Spells c.sites.form Fits' := by
  constructor
  · intro h'
    have hstands : ∀ f ∈ (c.form Fits').fields, ∀ node ∈ fs.all f.names, f.Stands node :=
      fun _ ↦ h'.stands_of_mem_all
    simp only [form, List.forall_mem_cons] at hstands
    exact ⟨hstands.2.2.1, hstands.2.2.2.1, hstands.2.2.2.2.1, hstands.2.2.2.2.2.1,
      hstands.2.2.2.2.2.2.1, hstands.2.2.2.2.2.2.2.1, hstands.2.2.2.2.2.2.2.2.1⟩
  · rintro ⟨hmute, hspam, hinvite, hmention, hlinks, hwords, hsites⟩
    have hscalar : ∀ {f : FieldForm}, f.NarrowsTo f (fs.all f.names) :=
      ⟨rfl, id, fun _ _ ↦ id⟩
    have hrecord : ∀ {names : List String} {p q : Node → Prop} {IsDefault : Prop},
        (∀ node ∈ fs.all names, q node) →
          FieldForm.NarrowsTo ⟨names, p, IsDefault⟩ ⟨names, q, IsDefault⟩ (fs.all names) :=
      fun hq ↦ ⟨rfl, id, fun node hnode _ ↦ hq node hnode⟩
    exact h.of_stands (.cons hscalar (.cons hscalar (.cons (hrecord hmute) (.cons (hrecord hspam)
      (.cons (hrecord hinvite) (.cons (hrecord hmention) (.cons (hrecord hlinks)
      (.cons (hrecord hwords) (.cons (hrecord hsites) .nil)))))))))

/-- A policy is read exactly if the unknown fields inside its records have values. -/
theorem yields_ofNode? (h : c.IsForm Fits n) :
    Yields (ofNode? d n) (c.IsForm d.HasValue n) c.uncompiled := by
  obtain ⟨fs, hfs, hspells⟩ := h
  have hguild : fs.get? ["guild_id"] 0 (word64? d) = some c.guild :=
    hspells.get?_exact (.head _) (word64?_numberNode _) id
  have henabled : fs.get? ["enabled"] false d.flag? = some c.enabled :=
    hspells.get?_exact (.tail _ (.head _)) (flag?_flagNode _) id
  have hmute : Yields (fs.get? ["mute"] .none (MuteMechanism.ofNode? d))
      (∀ node ∈ fs.all ["mute"], node.Spells c.mute.form d.HasValue) c.mute :=
    hspells.yields_get? (.tail _ (.tail _ (.head _)))
      (fun _ ↦ MuteMechanism.yields_ofNode?) id
  have hspam : Yields (fs.get? ["spam"] {} (SpamRule.ofNode? d))
      (∀ node ∈ fs.all ["spam"], node.Spells c.spam.form d.HasValue) c.spam :=
    hspells.yields_get? (.tail _ (.tail _ (.tail _ (.head _))))
      (fun _ ↦ SpamRule.yields_ofNode?) id
  have hinvite : Yields (fs.get? ["invite"] {} (InviteRule.ofNode? d))
      (∀ node ∈ fs.all ["invite"], node.Spells c.invite.form d.HasValue) c.invite :=
    hspells.yields_get? (.tail _ (.tail _ (.tail _ (.tail _ (.head _)))))
      (fun _ ↦ InviteRule.yields_ofNode?) id
  have hmention : Yields (fs.get? ["mention"] {} (MentionRule.ofNode? d))
      (∀ node ∈ fs.all ["mention"], node.Spells c.mention.form d.HasValue) c.mention :=
    hspells.yields_get? (.tail _ (.tail _ (.tail _ (.tail _ (.tail _ (.head _))))))
      (fun _ ↦ MentionRule.yields_ofNode?) id
  have hlinks : Yields (fs.get? ["links"] {} (LinksRule.ofNode? d))
      (∀ node ∈ fs.all ["links"], node.Spells c.links.form d.HasValue) c.links :=
    hspells.yields_get? (.tail _ (.tail _ (.tail _ (.tail _ (.tail _ (.tail _ (.head _)))))))
      (fun _ ↦ LinksRule.yields_ofNode?) id
  have hwords : Yields (fs.get? ["words"] {} (WordsRule.ofNode? d))
      (∀ node ∈ fs.all ["words"], node.Spells c.words.form d.HasValue) c.words.uncompiled :=
    hspells.yields_get?
      (.tail _ (.tail _ (.tail _ (.tail _ (.tail _ (.tail _ (.tail _ (.head _))))))))
      (fun _ ↦ WordsRule.yields_ofNode?) id
  have hsites : Yields (fs.get? ["sites"] {} (SitesRule.ofNode? d))
      (∀ node ∈ fs.all ["sites"], node.Spells c.sites.form d.HasValue) c.sites.uncompiled :=
    hspells.yields_get?
      (.tail _ (.tail _ (.tail _ (.tail _ (.tail _ (.tail _ (.tail _ (.tail _ (.head _)))))))))
      (fun _ ↦ SitesRule.yields_ofNode?) id
  simp only [ofNode?, hfs.fields?, hguild, henabled, Option.bind_eq_bind, Option.bind_some]
  refine Yields.congr ?_ ((hfs.spells_iff.trans (spells_form_iff hspells)).symm :)
  exact hmute.bind (hspam.bind (hinvite.bind (hmention.bind (hlinks.bind
    (hwords.bind hsites.bind_pure)))))

/-- What is written of a policy is one of the ways of writing it. -/
theorem isForm_toNode (c : GuildConfig) (Fits : Node → Prop) : c.IsForm Fits c.toNode :=
  Yaml.spells_ofFields
    ["guild_id", "enabled", "mute", "spam", "invite", "mention", "links", "words", "sites"] rfl rfl
    (.cons ⟨.head _, rfl⟩ (.cons ⟨.head _, rfl⟩ (.cons ⟨.head _, c.mute.spells_toNode Fits⟩
    (.cons ⟨.head _, c.spam.spells_toNode Fits⟩ (.cons ⟨.head _, c.invite.spells_toNode Fits⟩
    (.cons ⟨.head _, c.mention.spells_toNode Fits⟩ (.cons ⟨.head _, c.links.spells_toNode Fits⟩
    (.cons ⟨.head _, c.words.spells_toNode Fits⟩
    (.cons ⟨.head _, c.sites.spells_toNode Fits⟩ .nil)))))))))

theorem compile_uncompiled (c : GuildConfig) : c.uncompiled.compile = c.compile :=
  rfl

/-- **Reading back what is written.** A policy that is written is read back without its compiled
lists, and compiling it gives what compiling the policy itself gives. Every other way of writing it,
with the fields of any record in any order, with defaults left out, with unknown fields added, and
with either name of the threshold, is read as the same policy if the unknown fields of the mute
mechanism and of the rules have values, and is not read at all otherwise. -/
theorem ofNode?_of_isForm (c : GuildConfig) (d : Document) :
    ofNode? d c.toNode = some c.uncompiled ∧ c.uncompiled.compile = c.compile ∧
      ∀ n, c.IsForm (fun _ ↦ True) n →
        (c.IsForm d.HasValue n → ofNode? d n = some c.uncompiled) ∧
          (¬c.IsForm d.HasValue n → ofNode? d n = none) :=
  ⟨(yields_ofNode? (isForm_toNode c fun _ ↦ True)).1 (isForm_toNode c d.HasValue),
    c.compile_uncompiled, fun _ ↦ yields_ofNode?⟩

/-! ## Two ways of writing -/

/-- A policy that differs from the default one in some places. -/
def sample : GuildConfig :=
  { guild := 42, enabled := true, mute := .role 7, mention := { threshold := 3 }
    words := { bannedWords := ["spam"], lexicon := ["spam"] } }

/-- The policy is written with its fields the other way round, with a foreign field in front, and
with the other name of the threshold. -/
def sampleNode : Node :=
  .ofFields [("note", .plain "36893488147419103232"),
    ("words", .ofFields [("banned_words", .ofList [.plain "spam"])]),
    ("mention", .ofFields [("note", .plain "low"), ("treshold", .plain "3")]),
    ("mute", .ofFields [("role_id", .plain "7"), ("kind", .plain "role")]),
    ("enabled", .plain "true"), ("guild_id", .plain "42")]

theorem isForm_sampleNode (h : Fits (.plain "low")) : sample.IsForm Fits sampleNode := by
  have hmute : Node.Spells sample.mute.form Fits
      (.ofFields [("role_id", .plain "7"), ("kind", .plain "role")]) :=
    ⟨_, isRecord_ofFields ["role_id", "kind"] rfl rfl,
      [("kind", .plain "role"), ("role_id", .plain "7")], [],
      .given (.head _) (isText_plain rfl) (.given (.head _) rfl .nil),
      List.forall_mem_nil _, (List.reverse_perm _).symm⟩
  have hmention : Node.Spells sample.mention.form Fits
      (.ofFields [("note", .plain "low"), ("treshold", .plain "3")]) :=
    ⟨_, isRecord_ofFields ["note", "treshold"] rfl rfl,
      [("treshold", .plain "3")], [("note", .plain "low")],
      .leftOut rfl (.leftOut rfl (.leftOut rfl (.leftOut rfl (.leftOut rfl
        (.given (.tail _ (.head _)) rfl .nil))))),
      List.forall_mem_singleton.mpr ⟨by
        simp [MentionRule.form, RuleSettings.formWith, RuleSettings.forms, FieldForm.exact], h⟩,
      (List.reverse_perm _).symm⟩
  have hwords : Node.Spells sample.words.form Fits
      (.ofFields [("banned_words", .ofList [.plain "spam"])]) :=
    ⟨_, isRecord_ofFields ["banned_words"] rfl rfl,
      [("banned_words", .ofList [.plain "spam"])], [],
      .leftOut rfl (.leftOut rfl (.leftOut rfl (.leftOut rfl (.leftOut rfl
        (.given (.head _) ⟨_, rfl, .cons (isText_plain rfl) .nil⟩ .nil))))),
      List.forall_mem_nil _, List.Perm.refl _⟩
  refine ⟨_, isRecord_ofFields ["note", "words", "mention", "mute", "enabled", "guild_id"] rfl rfl,
    [("guild_id", .plain "42"), ("enabled", .plain "true"), ("mute", _), ("mention", _),
      ("words", _)], [("note", .plain "36893488147419103232")],
    .given (.head _) rfl (.given (.head _) rfl (.given (.head _) hmute (.leftOut rfl (.leftOut rfl
      (.given (.head _) hmention (.leftOut rfl (.given (.head _) hwords (.leftOut rfl .nil)))))))),
    List.forall_mem_singleton.mpr ⟨?_, trivial⟩, (List.reverse_perm _).symm⟩
  simp [form, FieldForm.exact]

/-- The default policy, with a field in the spam rule whose number fits no machine word. -/
def oversizedNode : Node :=
  .ofFields [("spam", .ofFields [("note", .plain "36893488147419103232")])]

theorem isForm_oversizedNode : IsForm (fun _ ↦ True) {} oversizedNode := by
  have hspam : Node.Spells ({} : SpamRule).form (fun _ ↦ True)
      (.ofFields [("note", .plain "36893488147419103232")]) :=
    ⟨_, isRecord_ofFields ["note"] rfl rfl, [], [("note", .plain "36893488147419103232")],
      .leftOut rfl (.leftOut rfl (.leftOut rfl (.leftOut rfl (.leftOut rfl (.leftOut rfl
        (.leftOut rfl .nil)))))),
      List.forall_mem_singleton.mpr ⟨by
        simp [SpamRule.form, RuleSettings.formWith, RuleSettings.forms, FieldForm.exact],
        trivial⟩, List.Perm.refl _⟩
  exact ⟨_, isRecord_ofFields ["spam"] rfl rfl, [("spam", _)], [],
    .leftOut rfl (.leftOut rfl (.leftOut rfl (.given (.head _) hspam (.leftOut rfl (.leftOut rfl
      (.leftOut rfl (.leftOut rfl (.leftOut rfl .nil)))))))),
    List.forall_mem_nil _, List.Perm.refl _⟩

theorem not_isForm_oversizedNode : ¬IsForm ({} : Document).HasValue {} oversizedNode := by
  rintro ⟨fs, hfs, hspells⟩
  obtain rfl := hfs.unique (isRecord_ofFields ["spam"] rfl rfl)
  obtain ⟨gs, hgs, hspam⟩ := hspells.stands_of_mem_all
    (.tail _ (.tail _ (.tail _ (.head _)))) _ (.head _)
  obtain rfl := hgs.unique (isRecord_ofFields ["note"] rfl rfl)
  have hnone : (({} : Document).value? innerDepth (.plain "36893488147419103232")).isSome =
      false := by
    decide +kernel
  rcases hspam.cases_of_mem (.head _) with ⟨form, hform, hname, -⟩ | ⟨-, hvalue⟩
  · revert form
    simp [SpamRule.form, RuleSettings.formWith, RuleSettings.forms, FieldForm.exact]
  · exact Bool.false_ne_true (hnone.symm.trans hvalue)

theorem ofNode?_of_isForm_sampleNode :
    (sample.IsForm (fun _ ↦ True) sampleNode ∧
      sample.IsForm ({} : Document).HasValue sampleNode ∧
      ofNode? {} sampleNode = some sample.uncompiled) ∧
    IsForm (fun _ ↦ True) {} oversizedNode ∧
      ¬IsForm ({} : Document).HasValue {} oversizedNode ∧ ofNode? {} oversizedNode = none := by
  have hlow : ({} : Document).HasValue (.plain "low") := by
    rw [Document.HasValue]
    decide +kernel
  have hsample : sample.IsForm (fun _ ↦ True) sampleNode := isForm_sampleNode trivial
  have hread := (ofNode?_of_isForm sample {}).2.2 sampleNode hsample
  have hunread := (ofNode?_of_isForm {} {}).2.2 oversizedNode isForm_oversizedNode
  exact ⟨⟨hsample, isForm_sampleNode hlow, hread.1 (isForm_sampleNode hlow)⟩,
    isForm_oversizedNode, not_isForm_oversizedNode, hunread.2 not_isForm_oversizedNode⟩

/-- Unknown fields are not passed over in every record: with this one in its spam rule, a way of
writing the default policy is not read, neither as a node nor from a text. -/
theorem ofNode?_oversizedNode :
    IsForm (fun _ ↦ True) {} oversizedNode ∧ ofNode? {} oversizedNode = none ∧
      parse? "spam:\n  note: 36893488147419103232\n" = none :=
  ⟨isForm_oversizedNode, by decide +kernel, by decide +kernel⟩

end GuildConfig

end GuildModeration
