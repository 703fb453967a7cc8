import Mathlib.Data.List.Forall2
import GuildModeration.Config.Form
import GuildModeration.Proofs.Text.Decimal

/-!
# Scalars that are read back

A number or a truth value that is written as a bare scalar is read back as what it was, both by a
reader that knows what it expects and by the rules of the core schema. For a number this comes down
to its decimal spelling: it starts with a digit, so it has no sign, it announces no base, it has no
leading zero, and it is none of the words that mean something else.
-/

namespace GuildModeration

open GuildModeration.Text
open GuildModeration.Yaml

/-! ## Lists -/

theorem mapM_eq_some_iff {α β : Type} {f : α → Option β} {as : List α} {bs : List β} :
    as.mapM f = some bs ↔ List.Forall₂ (fun a b ↦ f a = some b) as bs := by
  induction as generalizing bs with
  | nil => simp [eq_comm]
  | cons a as ih =>
    simp only [List.mapM_cons, Option.bind_eq_bind, Option.bind_eq_some_iff, Option.pure_def,
      Option.some_inj, List.forall₂_cons_left_iff, ih]
    constructor
    · rintro ⟨b, hb, bs', hbs', rfl⟩
      exact ⟨b, bs', hb, hbs', rfl⟩
    · rintro ⟨b, bs', hb, hbs', rfl⟩
      exact ⟨b, hb, bs', hbs', rfl⟩

namespace Yaml

/-! ## The spelling of a number -/

theorem startsSigned_repr (n : Nat) : startsSigned n.repr.toList = false := by
  cases hcs : n.repr.toList with
  | nil => rfl
  | cons c cs =>
    have hmem : c ∈ n.repr.toList := hcs ▸ List.mem_cons_self
    have hplus : c ≠ '+' := ne_of_mem_repr hmem (by decide)
    have hminus : c ≠ '-' := ne_of_mem_repr hmem (by decide)
    simp [startsSigned, hplus, hminus]

theorem announcedBase?_repr (n : Nat) : announcedBase? n.repr.toList = none := by
  rw [announcedBase?.eq_4]
  all_goals
    intro rest hcs
    have hmem := hcs ▸ List.mem_cons_of_mem '0' (List.mem_cons_self (l := rest))
    exact ne_of_mem_repr hmem (by decide) rfl

theorem hasLeadingZero_repr (n : Nat) : hasLeadingZero n.repr.toList = false := by
  rw [hasLeadingZero.eq_3 _ (toList_repr_ne_cons (by decide) n)
    (toList_repr_ne_cons (by decide) n), Nat.toList_repr]
  rcases Nat.eq_zero_or_pos n with rfl | hpos
  · decide
  · have hhead : ((Nat.toDigits 10 n).head? == some '0') = false :=
      beq_false_of_ne (head?_toDigits_ne hpos)
    rw [hhead, Bool.and_false, Bool.false_and]

/-! ## Reading a number -/

theorem natural?_repr {n bound : Nat} (h : n < bound) :
    natural? bound n.repr.toList = some n := by
  have hplus := toList_repr_ne_cons (c := '+') (by decide) n
  rw [natural?.eq_2 _ _ hplus, announcedBase?_repr]
  simp only [startsSigned_repr, hasLeadingZero_repr, Bool.or_self, Bool.false_eq_true, if_false]
  rw [unsigned?.eq_2 _ _ _ hplus, digits?_repr, Option.filter_some, if_pos (decide_eq_true h)]

theorem plainValue?_repr {n : Nat} (h : n < UInt64.size) :
    plainValue? n.repr = some (.natural n) := by
  have hnull : (n.repr.isEmpty || spellsNull n.repr) = false := by
    simp [spellsNull, repr_ne]
  have hflag : Yaml.flag? n.repr = none := by
    simp [Yaml.flag?, repr_ne]
  have hnumber : numberValue? n.repr.toList = some (some (.natural n)) := by
    rw [numberValue?, natural?_repr h]
  rw [plainValue?, hnull, hflag, hnumber]
  rfl

/-! ## Texts -/

/-- The node spells a text: it is quoted, or it is a bare word that means nothing else. -/
def Node.IsText (n : Node) (s : String) : Prop :=
  n = .quoted s ∨ n = .plain s ∧ plainValue? s = some (.text s)

variable {d : Document} {depth : Nat} {n : Node} {s : String}

theorem Document.value?_scalar (sc : Scalar) : d.value? depth (.scalar sc) = sc.value? := by
  cases depth <;> rfl

/-- The node lists texts one after another. -/
def Node.IsTexts (n : Node) (texts : List String) : Prop :=
  ∃ items, n = .ofList items ∧ List.Forall₂ IsText items texts

theorem Node.IsText.text? (h : n.IsText s) : d.text? n = some s := by
  obtain rfl | ⟨rfl, -⟩ := h <;> rfl

theorem Node.IsText.value? (h : n.IsText s) : d.value? depth n = some (.text s) := by
  obtain rfl | ⟨rfl, hs⟩ := h
  · exact Document.value?_scalar _
  · exact (Document.value?_scalar _).trans hs

theorem Node.IsTexts.texts? {texts : List String} (h : n.IsTexts texts) :
    d.texts? n = some texts := by
  obtain ⟨items, rfl, hitems⟩ := h
  exact mapM_eq_some_iff.mpr (hitems.imp fun _ _ ↦ IsText.text?)

theorem isTexts_textsNode (texts : List String) : (textsNode texts).IsTexts texts := by
  refine ⟨_, rfl, ?_⟩
  rw [List.forall₂_map_left_iff, List.forall₂_same]
  exact fun _ _ ↦ .inl rfl

end Yaml

/-! ## Readers that know the kind -/

variable {d : Document} {depth : Nat}

theorem flag?_flagNode (b : Bool) : d.flag? (flagNode b) = some b := by
  cases b <;> rfl

theorem natural?_numberNode {n bound : Nat} (h : n < bound) :
    d.natural? bound (numberNode n) = some n :=
  natural?_repr h

theorem word32?_numberNode (n : UInt32) : word32? d (numberNode n.toNat) = some n := by
  rw [word32?, natural?_numberNode n.toNat_lt, Option.map_some, UInt32.ofNat_toNat]

theorem word64?_numberNode (n : UInt64) : word64? d (numberNode n.toNat) = some n := by
  rw [word64?, natural?_numberNode n.toNat_lt, Option.map_some, UInt64.ofNat_toNat]

/-! ## Values -/

theorem value?_flagNode (b : Bool) : d.value? depth (flagNode b) = some (.flag b) := by
  cases b <;> exact Document.value?_scalar _

theorem value?_numberNode {n : Nat} (h : n < UInt64.size) :
    d.value? depth (numberNode n) = some (.natural n) :=
  (Document.value?_scalar _).trans (plainValue?_repr h)

theorem word32OfValue?_natural (n : UInt32) : word32OfValue? (.natural n.toNat) = some n := by
  rw [word32OfValue?, Value.natural?, if_pos n.toNat_lt, Option.map_some, UInt32.ofNat_toNat]

theorem word64OfValue?_natural (n : UInt64) : word64OfValue? (.natural n.toNat) = some n := by
  rw [word64OfValue?, Value.natural?, if_pos n.toNat_lt, Option.map_some, UInt64.ofNat_toNat]

theorem word64sOfValue?_natural (ns : List UInt64) :
    word64sOfValue? (.list (ns.map fun n ↦ .natural n.toNat)) = some ns := by
  rw [word64sOfValue?, Value.items?, Option.bind_some, mapM_eq_some_iff,
    List.forall₂_map_left_iff, List.forall₂_same]
  exact fun n _ ↦ word64OfValue?_natural n

/-- Numbers that are written one after another are the values of a list. -/
theorem value?_ofList_numberNode (ns : List UInt64) :
    d.value? (depth + 1) (.ofList (ns.map fun n ↦ numberNode n.toNat)) =
      some (.list (ns.map fun n ↦ .natural n.toNat)) := by
  have hitems : (ns.map fun n ↦ numberNode n.toNat).mapM (d.value? depth) =
      some (ns.map fun n ↦ .natural n.toNat) := by
    rw [mapM_eq_some_iff, List.forall₂_map_left_iff, List.forall₂_map_right_iff, List.forall₂_same]
    exact fun n _ ↦ value?_numberNode n.toNat_lt
  change ((ns.map fun n ↦ numberNode n.toNat).mapM (d.value? depth)).map Value.list = _
  rw [hitems, Option.map_some]

end GuildModeration
