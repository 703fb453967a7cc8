import GuildModeration.Proofs.Text.Separation
import Mathlib.Data.List.Basic
import Mathlib.Data.List.TakeWhile

/-!
# Where the runs of a text stand

A run is found by reading the text from left to right, but what makes it one can be seen where it
stands: it is not empty, all of it belongs to the class, and at either side the text ends or goes on
with a character that does not (`IsRun`). The runs of a text are the parts that stand in it like
that, in order (`runs_eq_append_cons_iff`). Two of them never overlap, so that of two different ones
the first lies whole before the second (`IsRun.exists_of_lt`).
-/

namespace GuildModeration.Text

variable {p : Char → Bool} {cs before run after : List Char}

/-- Between what stands before it and what stands behind it the part is a maximal run of the
class. -/
structure IsRun (p : Char → Bool) (before run after : List Char) : Prop where
  ne_nil : run ≠ []
  of_mem : ∀ c ∈ run, p c = true
  opens : ∀ c ∈ before.getLast?, p c = false
  closes : ∀ c ∈ after.head?, p c = false

/-! ## Runs of parts -/

theorem runs_of_forall_neg (h : ∀ c ∈ cs, p c = false) : runs p cs = [] := by
  induction cs with
  | nil => rfl
  | cons c cs ih =>
    obtain ⟨hc, hcs⟩ := List.forall_mem_cons.mp h
    rw [runs_cons_of_neg hc, ih hcs]

theorem runs_of_forall_pos (hne : cs ≠ []) (h : ∀ c ∈ cs, p c = true) : runs p cs = [cs] := by
  induction cs using runs_induction p with
  | nil => exact absurd rfl hne
  | skip c cs hc ih =>
    rw [h c List.mem_cons_self] at hc
    cases hc
  | last c hc => exact runs_singleton hc
  | ends c d cs hc hd ih =>
    rw [h d (List.mem_cons_of_mem _ List.mem_cons_self)] at hd
    cases hd
  | goesOn c d cs hc hd ih =>
    obtain ⟨first, rest, hruns, hlong⟩ := runs_cons_cons_of_pos hc hd cs
    rw [ih (List.cons_ne_nil _ _) fun x hx ↦ h x (List.mem_cons_of_mem _ hx),
      List.cons.injEq] at hruns
    rw [hlong, ← hruns.1, ← hruns.2]

/-- A text may be cut behind a character that belongs to no run. -/
theorem runs_append_of_opens (h : ∀ c ∈ before.getLast?, p c = false) (cs : List Char) :
    runs p (before ++ cs) = runs p before ++ runs p cs := by
  rcases List.eq_nil_or_concat before with rfl | ⟨front, s, rfl⟩
  · rfl
  · rw [List.concat_eq_append] at h ⊢
    have hs : p s = false := h s (by simp)
    have hend : runs p (front ++ [s]) = runs p front := by
      rw [runs_append_cons hs, runs, List.append_nil]
    rw [hend, List.append_assoc, List.singleton_append, runs_append_cons hs]

/-- A text may be cut before a character that belongs to no run. -/
theorem runs_append_of_closes (h : ∀ c ∈ after.head?, p c = false) (cs : List Char) :
    runs p (cs ++ after) = runs p cs ++ runs p after := by
  cases after with
  | nil => rw [List.append_nil, runs, List.append_nil]
  | cons s after => rw [runs_append_cons (h s rfl), runs_cons_of_neg (h s rfl)]

theorem IsRun.runs_eq (h : IsRun p before run after) :
    runs p (before ++ (run ++ after)) = runs p before ++ run :: runs p after := by
  rw [runs_append_of_opens h.opens, runs_append_of_closes h.closes,
    runs_of_forall_pos h.ne_nil h.of_mem, List.singleton_append]

/-! ## Every run stands somewhere -/

/-- More text in front changes nothing for a run that does not stand at the front already. -/
theorem IsRun.append_left (h : IsRun p before run after) (hne : before ≠ []) (front : List Char) :
    IsRun p (front ++ before) run after where
  ne_nil := h.ne_nil
  of_mem := h.of_mem
  opens := by
    rw [List.getLast?_append_of_ne_nil _ hne]
    exact h.opens
  closes := h.closes

/-- More text behind changes nothing for a run that does not stand at the end already. -/
theorem IsRun.append_right (h : IsRun p before run after) (hne : after ≠ []) (back : List Char) :
    IsRun p before run (after ++ back) where
  ne_nil := h.ne_nil
  of_mem := h.of_mem
  opens := h.opens
  closes := by
    rw [List.head?_append_of_ne_nil _ hne]
    exact h.closes

/-- The first character of what is left by `dropWhile` does not belong to the class. -/
theorem forall_head?_dropWhile (p : Char → Bool) (cs : List Char) :
    ∀ c ∈ (cs.dropWhile p).head?, p c = false := by
  induction cs with
  | nil => simp
  | cons d cs ih =>
    cases hd : p d with
    | true => rwa [List.dropWhile_cons_of_pos hd]
    | false =>
      rw [List.dropWhile_cons_of_neg (Bool.eq_false_iff.mp hd)]
      simpa using hd

/-- The first run, with what stands in front of it and behind it. -/
theorem exists_of_runs_eq_cons {rs : List (List Char)} (h : runs p cs = run :: rs) :
    ∃ before after, cs = before ++ (run ++ after) ∧ IsRun p before run after ∧
      runs p before = [] ∧ runs p after = rs := by
  induction cs with
  | nil => cases h
  | cons c cs ih =>
    cases hc : p c with
    | false =>
      rw [runs_cons_of_neg hc] at h
      obtain ⟨before, after, rfl, hrun, hbefore, hafter⟩ := ih h
      refine ⟨c :: before, after, rfl, ⟨hrun.ne_nil, hrun.of_mem, ?_, hrun.closes⟩, ?_, hafter⟩
      · cases before with
        | nil => simpa using hc
        | cons d before => exact hrun.opens
      · rw [runs_cons_of_neg hc, hbefore]
    | true =>
      have hfirst : IsRun p [] ((c :: cs).takeWhile p) ((c :: cs).dropWhile p) := by
        refine ⟨?_, fun d hd ↦ List.mem_takeWhile_imp hd, by simp, forall_head?_dropWhile p _⟩
        rw [List.takeWhile_cons_of_pos hc]
        exact List.cons_ne_nil _ _
      have hruns := hfirst.runs_eq
      rw [List.nil_append, List.takeWhile_append_dropWhile, h, runs, List.nil_append,
        List.cons.injEq] at hruns
      refine ⟨[], (c :: cs).dropWhile p, ?_, ?_, rfl, hruns.2.symm⟩
      · rw [hruns.1, List.nil_append, List.takeWhile_append_dropWhile]
      · rw [hruns.1]
        exact hfirst

/-- A part of a text is one of its runs, behind certain others and before certain others, if it
stands there like one. -/
theorem runs_eq_append_cons_iff {rs rs' : List (List Char)} :
    runs p cs = rs ++ run :: rs' ↔ ∃ before after, cs = before ++ (run ++ after) ∧
      IsRun p before run after ∧ runs p before = rs ∧ runs p after = rs' := by
  constructor
  · intro h
    induction rs generalizing cs with
    | nil => exact exists_of_runs_eq_cons h
    | cons first rs ih =>
      obtain ⟨front, behind, rfl, hfirst, hfront, hbehind⟩ := exists_of_runs_eq_cons h
      obtain ⟨before, after, rfl, hrun, hbefore, hafter⟩ := ih hbehind
      -- the run cannot begin where the first one ends
      have hne : before ≠ [] := by
        rintro rfl
        obtain ⟨c, tail, htail⟩ := List.exists_cons_of_ne_nil hrun.ne_nil
        have hin := hrun.of_mem c (htail ▸ List.mem_cons_self)
        rw [hfirst.closes c (by rw [List.nil_append, htail]; rfl)] at hin
        cases hin
      have hfirst' : IsRun p front first before := by
        refine ⟨hfirst.ne_nil, hfirst.of_mem, hfirst.opens, ?_⟩
        rw [← List.head?_append_of_ne_nil _ hne]
        exact hfirst.closes
      refine ⟨front ++ (first ++ before), after, by simp only [List.append_assoc], ?_, ?_, hafter⟩
      · rw [← List.append_assoc]
        exact hrun.append_left hne _
      · rw [hfirst'.runs_eq, hfront, hbefore]
        rfl
  · rintro ⟨before, after, rfl, hrun, rfl, rfl⟩
    exact hrun.runs_eq

theorem mem_runs_iff :
    run ∈ runs p cs ↔ ∃ before after, cs = before ++ (run ++ after) ∧ IsRun p before run after := by
  rw [List.mem_iff_append]
  constructor
  · rintro ⟨rs, rs', h⟩
    obtain ⟨before, after, htext, hrun, -, -⟩ := runs_eq_append_cons_iff.mp h
    exact ⟨before, after, htext, hrun⟩
  · rintro ⟨before, after, rfl, hrun⟩
    exact ⟨_, _, hrun.runs_eq⟩

/-- A run holds nothing but characters of its class. -/
theorem forall_mem_of_mem_runs (h : run ∈ runs p cs) : ∀ c ∈ run, p c = true := by
  obtain ⟨_, _, -, hrun⟩ := mem_runs_iff.mp h
  exact hrun.of_mem

theorem ne_nil_of_mem_runs (h : run ∈ runs p cs) : run ≠ [] := by
  obtain ⟨_, _, -, hrun⟩ := mem_runs_iff.mp h
  exact hrun.ne_nil

/-! ## Two runs of one text -/

/-- Something stands between two runs. -/
theorem IsRun.ne_nil_of_opens (h : IsRun p before run after)
    (hopens : ∀ c ∈ (before ++ (run ++ after)).getLast?, p c = false) : after ≠ [] := by
  rintro rfl
  have hlast := List.getLast?_eq_some_getLast h.ne_nil
  rw [List.append_nil, List.getLast?_append_of_ne_nil _ h.ne_nil] at hopens
  have hin := h.of_mem _ (List.getLast_mem h.ne_nil)
  rw [hopens _ hlast] at hin
  cases hin

/-- Of two runs of one text the one that begins first lies whole before the other, and is a run of
what stands before the other. -/
theorem IsRun.exists_of_lt {before' run' after' : List Char} (h : IsRun p before run after)
    (h' : IsRun p before' run' after')
    (htext : before' ++ (run' ++ after') = before ++ (run ++ after))
    (hlt : before'.length < before.length) :
    ∃ mid, before = before' ++ (run' ++ mid) ∧ IsRun p before' run' mid := by
  obtain ⟨gap, rfl, hrest⟩ :
      ∃ gap, before = before' ++ gap ∧ run' ++ after' = gap ++ (run ++ after) := by
    rcases List.append_eq_append_iff.mp htext with h | ⟨gap, rfl, -⟩
    · exact h
    · rw [List.length_append] at hlt
      omega
  have hne : gap ≠ [] := by
    rintro rfl
    simp at hlt
  have hopens := h.opens
  rw [List.getLast?_append_of_ne_nil _ hne] at hopens
  rcases List.append_eq_append_iff.mp hrest with ⟨mid, rfl, rfl⟩ | ⟨mid, rfl, -⟩
  · refine ⟨mid, rfl, h'.ne_nil, h'.of_mem, h'.opens, fun c hc ↦ ?_⟩
    exact h'.closes c (List.mem_head?_append_of_mem_head? hc)
  · -- the first run would reach into the second one
    have hlast := List.getLast?_eq_some_getLast hne
    have hin := h'.of_mem _ (List.mem_append_left mid (List.getLast_mem hne))
    rw [hopens _ hlast] at hin
    cases hin

end GuildModeration.Text
