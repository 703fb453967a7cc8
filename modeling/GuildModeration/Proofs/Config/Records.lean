import GuildModeration.Proofs.Config.Fields

/-!
# Reading records

The fields of a record are read in two ways. Some are read straight from their nodes, and unknown
fields beside them are passed over. Others are first brought to values, together with the unknown
fields, and so the record can be read only if the unknown fields have values as well
(`Fields.isSome_values?_without`). `Yields` is what is said of a reading under such a condition:
what it gives if the condition holds, and that it gives nothing otherwise.
-/

namespace GuildModeration

open GuildModeration.Yaml

/-! ## Readings under a condition -/

/-- The reading yields `x` if `p` holds, and nothing otherwise. -/
def Yields {α : Type} (o : Option α) (p : Prop) (x : α) : Prop :=
  (p → o = some x) ∧ (¬p → o = none)

namespace Yields

variable {α β : Type} {o : Option α} {p q : Prop} {x : α} {y : β}

theorem of_eq_some (h : o = some x) (hp : p) : Yields o p x :=
  ⟨fun _ ↦ h, fun hn ↦ absurd hp hn⟩

theorem congr (h : Yields o p x) (hpq : p ↔ q) : Yields o q x :=
  ⟨fun hq ↦ h.1 (hpq.mpr hq), fun hn ↦ h.2 (mt hpq.mp hn)⟩

/-- Reading two things one after the other takes both conditions. -/
theorem bind {f : α → Option β} (ho : Yields o p x) (hf : Yields (f x) q y) :
    Yields (o >>= f) (p ∧ q) y := by
  constructor
  · rintro ⟨hp, hq⟩
    rw [ho.1 hp]
    exact hf.1 hq
  · intro hn
    by_cases hp : p
    · rw [ho.1 hp]
      exact hf.2 fun hq ↦ hn ⟨hp, hq⟩
    · rw [ho.2 hp]
      rfl

theorem bind_pure {f : α → β} (ho : Yields o p x) :
    Yields (o >>= fun a ↦ pure (f a)) p (f x) :=
  ⟨fun hp ↦ by rw [ho.1 hp]; rfl, fun hn ↦ by rw [ho.2 hn]; rfl⟩

end Yields

/-! ## Nodes that spell records -/

namespace Yaml

/-- The node is a record of these fields, in this order. -/
def Node.IsRecord (n : Node) (fs : Fields Node) : Prop :=
  ∃ entries, n = .map none entries ∧
    List.Forall₂ (fun e f ↦ e.1.IsText f.1 ∧ e.2 = f.2) entries fs

/-- The node is a record that gives the fields in some order, and besides them unknown fields with
nodes that fit. -/
def Node.Spells (R : RecordForm) (Fits : Node → Prop) (n : Node) : Prop :=
  ∃ fs : Fields Node, n.IsRecord fs ∧ fs.Spells R Fits

/-- The node has a value, inside a record of the policy. -/
def Document.HasValue (d : Document) (n : Node) : Prop :=
  (d.value? innerDepth n).isSome = true

variable {d : Document} {n : Node} {fs gs : Fields Node} {R : RecordForm} {Fits : Node → Prop}

theorem Node.IsRecord.fields? (h : n.IsRecord fs) : d.fields? n = some fs := by
  obtain ⟨entries, rfl, hentries⟩ := h
  refine mapM_eq_some_iff.mpr (hentries.imp fun e f hef ↦ ?_)
  change (d.text? e.1).map (fun name ↦ (name, e.2)) = some f
  rw [hef.1.text?, hef.2, Option.map_some]

theorem Node.IsRecord.unique (h : n.IsRecord fs) (h' : n.IsRecord gs) : fs = gs :=
  Option.some_inj.mp ((h.fields? (d := {})).symm.trans h'.fields?)

theorem Node.IsRecord.spells_iff (h : n.IsRecord fs) :
    n.Spells R Fits ↔ fs.Spells R Fits :=
  ⟨fun ⟨_, hgs, hspells⟩ ↦ h.unique hgs ▸ hspells, fun hspells ↦ ⟨fs, h, hspells⟩⟩

/-- The bare word is a text, and nothing else. -/
def isBareText (s : String) : Bool :=
  match plainValue? s with
  | some (.text s') => s' == s
  | _ => false

theorem isText_plain {s : String} (h : isBareText s = true) : (Node.plain s).IsText s := by
  refine .inr ⟨rfl, ?_⟩
  rw [isBareText] at h
  split at h
  · rename_i s' hs
    rw [hs, eq_of_beq h]
  · exact absurd h Bool.false_ne_true

theorem isRecord_ofFields (names : List String) (hnames : fs.map (·.1) = names)
    (h : names.all isBareText = true) : (Node.ofFields fs).IsRecord fs := by
  refine ⟨_, rfl, ?_⟩
  rw [List.forall₂_map_left_iff, List.forall₂_same]
  intro f hf
  exact ⟨isText_plain (List.all_eq_true.mp h f.1 (hnames ▸ List.mem_map_of_mem hf)), rfl⟩

/-- A record that is written with all its fields in order. -/
theorem spells_ofFields (names : List String) (hnames : fs.map (·.1) = names)
    (h : names.all isBareText = true)
    (hforms : List.Forall₂ (fun form f ↦ f.1 ∈ form.names ∧ form.Stands f.2) R.fields fs) :
    (Node.ofFields fs).Spells R Fits :=
  ⟨fs, isRecord_ofFields names hnames h, .of_forall₂ hforms⟩

end Yaml

namespace Fields

variable {β : Type} {d : Document} {R : RecordForm} {Fits : Node → Prop} {fs : Fields Node}
  {vs : Fields Value} {names : List String}

/-- A field is read under the condition under which the node that is given for it is. -/
theorem Spells.yields_get? (h : Spells R Fits fs) {form : FieldForm} (hform : form ∈ R.fields)
    {default value : β} {read : Node → Option β} {p : Node → Prop}
    (hread : ∀ node, form.Stands node → Yields (read node) (p node) value)
    (hdefault : form.IsDefault → value = default) :
    Yields (fs.get? form.names default read) (∀ node ∈ fs.all form.names, p node) value := by
  rw [get?]
  obtain ⟨node, hnode, hall⟩ | ⟨hleft, hall⟩ := h.all_cases hform
  · rw [hall]
    exact (hread node hnode).congr List.forall_mem_singleton.symm
  · rw [hall, hdefault hleft]
    exact .of_eq_some rfl (List.forall_mem_nil _)

/-! ## The values of fields -/

/-- The fields with values in place of their nodes, if all of them have one. -/
def values? (d : Document) (fs : Fields Node) : Option (Fields Value) :=
  fs.mapM fun f ↦ (d.value? innerDepth f.2).map fun v ↦ (f.1, v)

theorem isSome_values? : (values? d fs).isSome = true ↔ ∀ f ∈ fs, d.HasValue f.2 := by
  induction fs with
  | nil => simp [values?]
  | cons f fs ih =>
    rw [List.forall_mem_cons, ← ih, Document.HasValue, values?, List.mapM_cons]
    cases d.value? innerDepth f.2 with
    | none => simp
    | some v => cases h : values? d fs <;> simp_all [values?]

theorem all_values? (h : values? d fs = some vs) :
    List.Forall₂ (fun node v ↦ d.value? innerDepth node = some v) (fs.all names)
      (vs.all names) := by
  have hpairs := mapM_eq_some_iff.mp h
  clear h
  induction hpairs with
  | nil => exact .nil
  | @cons f v fs vs hf _ ih =>
    obtain ⟨value, hvalue, rfl⟩ := Option.map_eq_some_iff.mp hf
    rw [all_cons, all_cons]
    by_cases hmem : f.1 ∈ names
    · rw [if_pos hmem, if_pos hmem]
      exact .cons hvalue ih
    · rw [if_neg hmem, if_neg hmem]
      exact ih

theorem all_values?_eq_singleton (h : values? d fs = some vs) {node : Node} {v : Value}
    (hnode : fs.all names = [node]) (hv : d.value? innerDepth node = some v) :
    vs.all names = [v] := by
  have hall : List.Forall₂ _ (fs.all names) (vs.all names) := all_values? h
  rw [hnode] at hall
  generalize vs.all names = values at hall
  obtain _ | ⟨hv', hnil⟩ := hall
  cases hnil
  rw [Option.some_inj.mp (hv'.symm.trans hv)]

/-- A field of the values is the value of the field. -/
theorem get?_of_values? (h : values? d fs = some vs) {default : β} {read : Value → Option β} :
    vs.get? names default read =
      fs.get? names default fun node ↦ (d.value? innerDepth node).bind read := by
  have hall : List.Forall₂ _ (fs.all names) (vs.all names) := all_values? h
  rw [get?, get?]
  generalize fs.all names = nodes, vs.all names = values at hall
  cases hall with
  | nil => rfl
  | cons hvalue hrest =>
    cases hrest with
    | nil => exact (congrArg (Option.bind · read) hvalue).symm
    | cons _ _ => rfl

/-- The fields but `own` have values exactly if the unknown fields do, provided that the other
fields of the record have. -/
theorem isSome_values?_without {own : List String} (h : Spells R Fits fs)
    (hown : ∀ name ∈ own, ∃ form ∈ R.fields, name ∈ form.names)
    (hforms : ∀ form ∈ R.fields, (∀ name ∈ form.names, name ∈ own) ∨
      ∀ node, form.Stands node → d.HasValue node) :
    (values? d (fs.without own)).isSome = true ↔ Spells R d.HasValue fs := by
  rw [isSome_values?]
  constructor
  · refine fun hvalues ↦ h.of_unknown fun f hf hunknown ↦ hvalues f ?_
    have hmem : f.1 ∉ own := fun hmem ↦ by
      obtain ⟨form, hform, hname⟩ := hown f.1 hmem
      exact hunknown form hform hname
    simpa [without, hf] using hmem
  · intro hvalues f hf
    obtain ⟨hf, hmem⟩ : f ∈ fs ∧ f.1 ∉ own := by simpa [without] using hf
    rcases hvalues.cases_of_mem hf with ⟨form, hform, hname, hnode⟩ | ⟨-, hvalue⟩
    · rcases hforms form hform with hnames | hvalue
      · exact absurd (hnames f.1 hname) hmem
      · exact hvalue f.2 hnode
    · exact hvalue

end Fields

end GuildModeration
