import Mathlib.Data.List.Forall2
import GuildModeration.Proofs.Yaml.Scalars

/-!
# Records in any order

A record may be written in many ways: its fields stand in any order, a field goes by any of its
names, a field with its default may be left out, and fields that the record does not know may be
added. `Fields.Spells` says that some entries are such a way of writing, in terms of a `RecordForm`,
which has one `FieldForm` for each field that the record knows.

What a reader sees of the entries is only what stands under the names of one field, and
`Fields.Spells.all_cases` says what that is, whatever the way of writing: one node that stands for
the value, or nothing and the value is the default.
-/

namespace GuildModeration

open GuildModeration.Yaml

/-- What may be written for one field of a record. -/
structure FieldForm where
  /-- The names that the field goes by. -/
  names : List String
  /-- The node stands for the value of the field. -/
  Stands : Node → Prop
  /-- The value is the default, for which nothing needs to be written. -/
  IsDefault : Prop

namespace FieldForm

/-- A field with one name, for whose value one node stands. -/
def exact (name : String) (node : Node) (IsDefault : Prop) : FieldForm :=
  ⟨[name], (· = node), IsDefault⟩

/-- No name is a name of two fields. -/
def Distinct (forms : List FieldForm) : Prop :=
  (forms.flatMap (·.names)).Nodup

variable {form : FieldForm} {forms : List FieldForm}

theorem Distinct.tail (h : Distinct (form :: forms)) : Distinct forms := by
  rw [Distinct, List.flatMap_cons] at h
  exact (List.nodup_append.mp h).2.1

theorem Distinct.notMem (h : Distinct (form :: forms)) {name : String} (hname : name ∈ form.names)
    {other : FieldForm} (hother : other ∈ forms) : name ∉ other.names := by
  rw [Distinct, List.flatMap_cons] at h
  intro hmem
  have hmem' : name ∈ forms.flatMap (·.names) := List.mem_flatMap.mpr ⟨other, hother, hmem⟩
  exact (List.nodup_append.mp h).2.2 name hname name hmem' rfl

/-- The fields have the same names, and what is written for the first one, as far as it is among
some nodes, is also a way of writing the second one. -/
def NarrowsTo (form form' : FieldForm) (nodes : List Node) : Prop :=
  form.names = form'.names ∧ (form.IsDefault → form'.IsDefault) ∧
    ∀ node ∈ nodes, form.Stands node → form'.Stands node

end FieldForm

/-- What may be written for the fields of a record. -/
structure RecordForm where
  /-- The fields that the record knows. -/
  fields : List FieldForm
  distinct : FieldForm.Distinct fields

namespace Fields

variable {α β : Type} {form : FieldForm} {forms forms' : List FieldForm} {R R' : RecordForm}
  {Fits Fits' : Node → Prop} {fs known : Fields Node} {names own : List String}

/-! ## Ways of writing -/

/-- The entries give the fields one after another, each under one of its names; only fields with
their default are left out. -/
inductive Lists : List FieldForm → Fields Node → Prop where
  | nil : Lists [] []
  | given {form : FieldForm} {forms : List FieldForm} {name : String} {node : Node}
      {entries : Fields Node} (hname : name ∈ form.names) (hnode : form.Stands node)
      (hrest : Lists forms entries) : Lists (form :: forms) ((name, node) :: entries)
  | leftOut {form : FieldForm} {forms : List FieldForm} {entries : Fields Node}
      (hdefault : form.IsDefault) (hrest : Lists forms entries) : Lists (form :: forms) entries

/-- The entries give the fields of a record in some order, and besides them unknown fields with
nodes that fit. -/
def Spells (R : RecordForm) (Fits : Node → Prop) (fs : Fields Node) : Prop :=
  ∃ known extra, Lists R.fields known ∧
    (∀ f ∈ extra, (∀ form ∈ R.fields, f.1 ∉ form.names) ∧ Fits f.2) ∧ fs.Perm (known ++ extra)

theorem Lists.exists_of_mem (h : Lists forms known) {f : String × Node} (hf : f ∈ known) :
    ∃ form ∈ forms, f.1 ∈ form.names ∧ form.Stands f.2 := by
  induction h with
  | nil => exact absurd hf List.not_mem_nil
  | given hname hnode _ ih =>
    rcases List.mem_cons.mp hf with rfl | hf
    · exact ⟨_, List.mem_cons_self, hname, hnode⟩
    · obtain ⟨form, hform, hmem⟩ := ih hf
      exact ⟨form, List.mem_cons_of_mem _ hform, hmem⟩
  | leftOut _ _ ih =>
    obtain ⟨form, hform, hmem⟩ := ih hf
    exact ⟨form, List.mem_cons_of_mem _ hform, hmem⟩

/-- Every entry is one of a known field, or it is an unknown one that fits. -/
theorem Spells.cases_of_mem (h : Spells R Fits fs) {f : String × Node} (hf : f ∈ fs) :
    (∃ form ∈ R.fields, f.1 ∈ form.names ∧ form.Stands f.2) ∨
      (∀ form ∈ R.fields, f.1 ∉ form.names) ∧ Fits f.2 := by
  obtain ⟨known, extra, hknown, hextra, hperm⟩ := h
  rcases List.mem_append.mp (hperm.mem_iff.mp hf) with hf | hf
  · exact .inl (hknown.exists_of_mem hf)
  · exact .inr (hextra f hf)

/-- Unknown fields fit if the nodes under all unknown names do. -/
theorem Spells.of_unknown (h : Spells R Fits fs)
    (hfits : ∀ f ∈ fs, (∀ form ∈ R.fields, f.1 ∉ form.names) → Fits' f.2) :
    Spells R Fits' fs := by
  obtain ⟨known, extra, hknown, hextra, hperm⟩ := h
  refine ⟨known, extra, hknown, fun f hf ↦ ⟨(hextra f hf).1, ?_⟩, hperm⟩
  exact hfits f (hperm.mem_iff.mpr (List.mem_append_right _ hf)) (hextra f hf).1

theorem Lists.of_forall₂ {entries : Fields Node}
    (h : List.Forall₂ (fun form f ↦ f.1 ∈ form.names ∧ form.Stands f.2) forms entries) :
    Lists forms entries := by
  induction h with
  | nil => exact .nil
  | cons hf _ ih => exact .given hf.1 hf.2 ih

/-- All fields in order, and no unknown ones. -/
theorem Spells.of_forall₂ {entries : Fields Node}
    (h : List.Forall₂ (fun form f ↦ f.1 ∈ form.names ∧ form.Stands f.2) R.fields entries) :
    Spells R Fits entries :=
  ⟨entries, [], .of_forall₂ h, fun _ hf ↦ absurd hf List.not_mem_nil, by rw [List.append_nil]⟩

/-! ## What stands under some names -/

theorem all_cons (f : String × α) (fs : Fields α) :
    all (f :: fs) names = if f.1 ∈ names then f.2 :: all fs names else all fs names := by
  by_cases h : f.1 ∈ names <;> simp [all, h]

theorem all_append (fs gs : Fields α) : all (fs ++ gs) names = all fs names ++ all gs names := by
  simp [all]

theorem all_eq_nil {fs : Fields α} (h : ∀ f ∈ fs, f.1 ∉ names) : fs.all names = [] := by
  simpa [all] using h

theorem mem_all {fs : Fields α} {a : α} : a ∈ fs.all names ↔ ∃ f ∈ fs, f.1 ∈ names ∧ f.2 = a := by
  simp [all, and_assoc]

theorem all_perm {fs gs : Fields α} (h : fs.Perm gs) : (fs.all names).Perm (gs.all names) :=
  (h.filter _).map _

theorem all_without {fs : Fields α} (h : ∀ name ∈ names, name ∉ own) :
    (fs.without own).all names = fs.all names := by
  have hfilter : (fun f : String × α ↦ names.contains f.1 && !own.contains f.1) =
      fun f ↦ names.contains f.1 := by
    funext f
    by_cases hf : f.1 ∈ names
    · simp [hf, h _ hf]
    · simp [hf]
  rw [all, without, List.filter_filter, hfilter, all]

theorem get?_without {fs : Fields α} (h : ∀ name ∈ names, name ∉ own) {default : β}
    {read : α → Option β} :
    (fs.without own).get? names default read = fs.get? names default read := by
  rw [get?, get?, all_without h]

theorem filter_eq_of_all {fs : Fields α} {name : String} {a : α} (h : fs.all [name] = [a]) :
    (fs.filter fun f ↦ f.1 == name) = [(name, a)] := by
  have hcontains : (fun f : String × α ↦ [name].contains f.1) = fun f ↦ f.1 == name := by
    funext f
    rw [List.contains_cons, List.contains_nil, Bool.or_false]
  rw [all, hcontains] at h
  obtain ⟨⟨name', a'⟩, hf, rfl⟩ := List.map_eq_singleton_iff.mp h
  have hmem : (name', a') ∈ fs.filter fun f ↦ f.1 == name := hf ▸ List.mem_singleton_self _
  have hname : (name' == name) = true := (List.mem_filter.mp hmem).2
  rw [hf, eq_of_beq hname]

/-- One of the fields in a list that gives them one after another. -/
theorem Lists.all_cases (h : Lists forms known) (hd : FieldForm.Distinct forms)
    (hform : form ∈ forms) :
    (∃ node, form.Stands node ∧ known.all form.names = [node]) ∨
      form.IsDefault ∧ known.all form.names = [] := by
  -- Later entries belong to other fields, so none of them goes by a name of the first field.
  have hlater : ∀ {first : FieldForm} {forms : List FieldForm} {entries : Fields Node},
      FieldForm.Distinct (first :: forms) → Lists forms entries →
        entries.all first.names = [] := fun hd hrest ↦ all_eq_nil fun f hf hmem ↦ by
    obtain ⟨other, hother, hmem', -⟩ := hrest.exists_of_mem hf
    exact hd.notMem hmem hother hmem'
  induction h with
  | nil => exact absurd hform List.not_mem_nil
  | given hname hnode hrest ih =>
    rw [all_cons]
    rcases List.mem_cons.mp hform with rfl | hform
    · rw [if_pos hname, hlater hd hrest]
      exact .inl ⟨_, hnode, rfl⟩
    · rw [if_neg (hd.notMem hname hform)]
      exact ih hd.tail hform
  | leftOut hdefault hrest ih =>
    rcases List.mem_cons.mp hform with rfl | hform
    · exact .inr ⟨hdefault, hlater hd hrest⟩
    · exact ih hd.tail hform

/-- What stands under the names of a field: one node that stands for its value, or nothing. -/
theorem Spells.all_cases (h : Spells R Fits fs) (hform : form ∈ R.fields) :
    (∃ node, form.Stands node ∧ fs.all form.names = [node]) ∨
      form.IsDefault ∧ fs.all form.names = [] := by
  obtain ⟨known, extra, hknown, hextra, hperm⟩ := h
  have hall : (fs.all form.names).Perm (known.all form.names) := by
    have hnone : all extra form.names = [] :=
      all_eq_nil fun f hf ↦ (hextra f hf).1 form hform
    rw [← List.append_nil (known.all form.names), ← hnone, ← all_append]
    exact all_perm hperm
  obtain ⟨node, hnode, heq⟩ | ⟨hdefault, heq⟩ := hknown.all_cases R.distinct hform
  · exact .inl ⟨node, hnode, List.perm_singleton.mp (heq ▸ hall)⟩
  · exact .inr ⟨hdefault, List.perm_nil.mp (heq ▸ hall)⟩

theorem Spells.stands_of_mem_all (h : Spells R Fits fs) (hform : form ∈ R.fields) :
    ∀ node ∈ fs.all form.names, form.Stands node := by
  obtain ⟨node, hnode, hall⟩ | ⟨-, hall⟩ := h.all_cases hform
  · rw [hall]
    exact List.forall_mem_singleton.mpr hnode
  · rw [hall]
    exact List.forall_mem_nil _

/-- A field is read as its value if every node that stands for it is. -/
theorem Spells.get?_eq (h : Spells R Fits fs) (hform : form ∈ R.fields) {default value : β}
    {read : Node → Option β} (hread : ∀ node, form.Stands node → read node = some value)
    (hdefault : form.IsDefault → value = default) :
    fs.get? form.names default read = some value := by
  rw [get?]
  obtain ⟨node, hnode, hall⟩ | ⟨hleft, hall⟩ := h.all_cases hform
  · rw [hall]
    exact hread node hnode
  · rw [hall, hdefault hleft]

theorem Spells.get?_exact (h : Spells R Fits fs) {name : String} {node : Node} {IsDefault : Prop}
    (hform : .exact name node IsDefault ∈ R.fields) {default value : β} {read : Node → Option β}
    (hread : read node = some value) (hdefault : IsDefault → value = default) :
    fs.get? [name] default read = some value :=
  h.get?_eq hform (fun _ hnode ↦ hnode ▸ hread) hdefault

/-! ## Narrower senses of a field -/

theorem Lists.of_stands (h : Lists forms known) (hsub : ∀ f ∈ known, f ∈ fs)
    (hforms : List.Forall₂ (fun form form' ↦ form.NarrowsTo form' (fs.all form.names))
      forms forms') : Lists forms' known := by
  induction h generalizing forms' with
  | nil =>
    cases hforms
    exact .nil
  | @given form forms name node entries hname hnode hrest ih =>
    obtain _ | ⟨⟨hnames, -, hstands⟩, hforms⟩ := hforms
    have hmem : node ∈ fs.all form.names :=
      mem_all.mpr ⟨_, hsub _ List.mem_cons_self, hname, rfl⟩
    exact .given (hnames ▸ hname) (hstands node hmem hnode)
      (ih (fun f hf ↦ hsub f (List.mem_cons_of_mem _ hf)) hforms)
  | leftOut hdefault hrest ih =>
    obtain _ | ⟨⟨-, hdef, -⟩, hforms⟩ := hforms
    exact .leftOut (hdef hdefault) (ih hsub hforms)

/-- The fields are also given in a narrower sense, if the nodes that are given stand for them in
that sense. -/
theorem Spells.of_stands (h : Spells R Fits fs)
    (hforms : List.Forall₂ (fun form form' ↦ form.NarrowsTo form' (fs.all form.names))
      R.fields R'.fields) : Spells R' Fits fs := by
  have hnames : R.fields.map (·.names) = R'.fields.map (·.names) := by
    rw [← List.forall₂_eq_eq_eq, List.forall₂_map_left_iff, List.forall₂_map_right_iff]
    exact hforms.imp fun _ _ h ↦ h.1
  obtain ⟨known, extra, hknown, hextra, hperm⟩ := h
  refine ⟨known, extra, hknown.of_stands ?_ hforms, fun f hf ↦ ⟨?_, (hextra f hf).2⟩, hperm⟩
  · exact fun f hf ↦ hperm.mem_iff.mpr (List.mem_append_left _ hf)
  · intro form' hform' hmem
    obtain ⟨form, hform, heq⟩ := List.mem_map.mp (hnames ▸ List.mem_map_of_mem hform')
    exact (hextra f hf).1 form hform (heq ▸ hmem)

end Fields

end GuildModeration
