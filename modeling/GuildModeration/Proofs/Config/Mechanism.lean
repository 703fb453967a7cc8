import GuildModeration.Proofs.Config.Records

/-!
# Ways of writing a mute mechanism

A mute mechanism is a record whose field `kind` names it. The kind is read as a text, straight from
its node, and only then is it known which other fields there are; so these are brought to values
together with the unknown ones, and a mechanism without a role keeps an unknown `role_id` like any
other unknown field.
-/

namespace GuildModeration

open GuildModeration.Yaml

namespace MuteMechanism

variable {d : Document} {n : Node} {fs : Fields Node} {vs : Fields Value}

/-- The name of the mechanism. -/
def kind : MuteMechanism → String
  | .none => "none"
  | .role _ => "role"
  | .timeout => "timeout"

/-- The fields of the mechanism beside its name. -/
def ownFields : MuteMechanism → List FieldForm
  | .role id => [.exact "role_id" (numberNode id.toNat) False]
  | _ => []

/-- The fields of the mechanism, none of which has a default. -/
def form (m : MuteMechanism) : RecordForm where
  fields := ⟨["kind"], (·.IsText m.kind), False⟩ :: m.ownFields
  distinct := by cases m <;> simp [FieldForm.Distinct, ownFields, FieldForm.exact]

theorem spells_toNode (m : MuteMechanism) (Fits : Node → Prop) : m.toNode.Spells m.form Fits := by
  cases m with
  | none => exact Yaml.spells_ofFields ["kind"] rfl rfl (.cons ⟨.head _, .inl rfl⟩ .nil)
  | timeout => exact Yaml.spells_ofFields ["kind"] rfl rfl (.cons ⟨.head _, .inl rfl⟩ .nil)
  | role id =>
    exact Yaml.spells_ofFields ["kind", "role_id"] rfl rfl
      (.cons ⟨.head _, .inl rfl⟩ (.cons ⟨.head _, rfl⟩ .nil))

theorem hasValue_of_mem_ownFields {m : MuteMechanism} {form : FieldForm}
    (hform : form ∈ m.ownFields) {node : Node} (hnode : form.Stands node) : d.HasValue node := by
  cases m with
  | none => exact absurd hform List.not_mem_nil
  | timeout => exact absurd hform List.not_mem_nil
  | role id =>
    obtain rfl := List.mem_singleton.mp hform
    rw [Document.HasValue, hnode, value?_numberNode id.toNat_lt, Option.isSome_some]

/-! ## Reading a record -/

/-- The entries that some fields are, with texts for keys. -/
def entriesOf {α : Type} (fs : Fields α) : List (Value × α) :=
  fs.map fun f ↦ (.text f.1, f.2)

theorem roleOfEntries?_entriesOf {role : Value} (h : vs.all ["role_id"] = [role]) :
    roleOfEntries? (entriesOf vs) = word64OfValue? role := by
  have hmarked : ((entriesOf vs).mapM fun e ↦ (isRoleKey? e.1).map fun b ↦ (b, e.2)) =
      some (vs.map fun f ↦ (f.1 == "role_id", f.2)) := by
    rw [mapM_eq_some_iff, entriesOf, List.forall₂_map_left_iff, List.forall₂_map_right_iff,
      List.forall₂_same]
    exact fun _ _ ↦ rfl
  have hfilter : (vs.map fun f ↦ (f.1 == "role_id", f.2)).filter (·.1) = [(true, role)] := by
    rw [List.filter_map]
    exact congrArg (List.map _) (Fields.filter_eq_of_all h)
  change ((entriesOf vs).mapM fun e ↦ (isRoleKey? e.1).map fun b ↦ (b, e.2)).bind _ = _
  rw [hmarked, Option.bind_some, hfilter]

/-- The key of an entry names the kind. -/
def isKind : Value → Bool
  | .text s => s == "kind"
  | _ => false

/-- The mechanism of a record whose keys have been read. -/
def ofKeyed? (d : Document) (keyed : List (Value × Node)) : Option MuteMechanism :=
  match keyed.filter fun e ↦ isKind e.1 with
  | [(_, kind)] => do
    let entries ← (keyed.filter fun e ↦ !isKind e.1).mapM fun (k, node) ↦
      (d.value? innerDepth node).map fun v ↦ (k, v)
    ofEntries? (← d.text? kind) entries
  | _ => Option.none

theorem ofNode?_map (entries : List (Node × Node)) :
    ofNode? d (.map Option.none entries) =
      (entries.mapM fun (key, node) ↦ (d.value? innerDepth key).map fun k ↦ (k, node)) >>=
        ofKeyed? d :=
  rfl

theorem mapM_entriesOf (fs : Fields Node) :
    ((entriesOf fs).mapM fun (k, node) ↦ (d.value? innerDepth node).map fun v ↦ (k, v)) =
      (Fields.values? d fs).map entriesOf := by
  induction fs with
  | nil => rfl
  | cons f fs ih =>
    rw [Fields.values?] at ih ⊢
    rw [entriesOf, List.map_cons, ← entriesOf, List.mapM_cons, List.mapM_cons, ih]
    dsimp only
    cases d.value? innerDepth f.2 with
    | none => rfl
    | some v =>
      cases (fs.mapM fun f ↦ (d.value? innerDepth f.2).map fun v ↦ (f.1, v)) <;> rfl

/-- A record is read by its kind and the values of its other fields. -/
theorem ofKeyed?_entriesOf {kind : String} {node : Node} (hkind : fs.all ["kind"] = [node])
    (htext : d.text? node = some kind) :
    ofKeyed? d (entriesOf fs) = (Fields.values? d (fs.without ["kind"])).bind fun rest ↦
      ofEntries? kind (entriesOf rest) := by
  have hkinds : ((entriesOf fs).filter fun e ↦ isKind e.1) = [(.text "kind", node)] := by
    rw [entriesOf, List.filter_map]
    exact congrArg (List.map _) (Fields.filter_eq_of_all hkind)
  have hwithout : ((entriesOf fs).filter fun e ↦ !isKind e.1) =
      entriesOf (fs.without ["kind"]) := by
    rw [entriesOf, List.filter_map, entriesOf, Fields.without]
    refine congrArg (List.map _) (congrArg (List.filter · fs) ?_)
    funext f
    rw [List.contains_cons, List.contains_nil, Bool.or_false]
    rfl
  rw [ofKeyed?, hkinds, hwithout]
  dsimp only
  rw [mapM_entriesOf, htext]
  cases Fields.values? d (fs.without ["kind"]) <;> rfl

theorem ofNode?_of_isRecord (h : n.IsRecord fs) : ofNode? d n = ofKeyed? d (entriesOf fs) := by
  obtain ⟨entries, rfl, hentries⟩ := h
  have hkeyed : (entries.mapM fun (key, node) ↦
      (d.value? innerDepth key).map fun k ↦ (k, node)) = some (entriesOf fs) := by
    rw [mapM_eq_some_iff, entriesOf, List.forall₂_map_right_iff]
    refine hentries.imp fun e f hef ↦ ?_
    change (d.value? innerDepth e.1).map (fun k ↦ (k, e.2)) = _
    rw [hef.1.value?, hef.2, Option.map_some]
  rw [ofNode?_map, hkeyed]
  rfl

/-! ## Reading a mechanism -/

theorem ofEntries?_of_spells {m : MuteMechanism} {Fits : Node → Prop} (h : fs.Spells m.form Fits)
    (hvalues : Fields.values? d (fs.without ["kind"]) = some vs) :
    ofEntries? m.kind (entriesOf vs) = some m := by
  cases m with
  | none => rfl
  | timeout => rfl
  | role id =>
    obtain ⟨node, rfl, hrole⟩ := (h.all_cases (.tail _ (.head _))).resolve_right fun h ↦ h.1
    have hvalue : vs.all ["role_id"] = [.natural id.toNat] :=
      Fields.all_values?_eq_singleton hvalues ((Fields.all_without (by decide)).trans hrole)
        (value?_numberNode id.toNat_lt)
    change (roleOfEntries? (entriesOf vs)).map MuteMechanism.role = some (.role id)
    rw [roleOfEntries?_entriesOf hvalue, word64OfValue?_natural, Option.map_some]

/-- A mechanism is read exactly if its unknown fields have values. -/
theorem yields_ofNode? {m : MuteMechanism} {Fits : Node → Prop} (h : n.Spells m.form Fits) :
    Yields (ofNode? d n) (n.Spells m.form d.HasValue) m := by
  obtain ⟨fs, hfs, hspells⟩ := h
  obtain ⟨node, hnode, hkind⟩ := (hspells.all_cases (.head _)).resolve_right fun h ↦ h.1
  have hisSome : (Fields.values? d (fs.without ["kind"])).isSome = true ↔
      n.Spells m.form d.HasValue := by
    rw [hfs.spells_iff]
    refine Fields.isSome_values?_without hspells (fun name hname ↦ ?_) fun form hform ↦ ?_
    · exact ⟨_, .head _, hname⟩
    · rcases List.mem_cons.mp hform with rfl | hform
      · exact .inl fun _ ↦ id
      · exact .inr fun node ↦ hasValue_of_mem_ownFields hform
  rw [ofNode?_of_isRecord hfs, ofKeyed?_entriesOf hkind (Node.IsText.text? hnode)]
  refine Yields.congr ?_ hisSome
  cases hvalues : Fields.values? d (fs.without ["kind"]) with
  | none => exact ⟨nofun, fun _ ↦ rfl⟩
  | some vs => exact .of_eq_some (ofEntries?_of_spells hspells hvalues) rfl

end MuteMechanism

end GuildModeration
