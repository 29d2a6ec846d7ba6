import Mathlib.Data.List.Chain
import Wireframe.Proofs.Lines

/-!
# Carriage returns before line feeds

A text that is cut into lines loses the carriage returns that stand right before its line feeds.

* **Without them** (`withoutReturns`, `joinWith_lines`): the lines of a text that does not end with a line feed are,
  joined again, the text without these carriage returns.
* **Having none** (`Returnless`, `withoutReturns_eq_self_iff`): a chain of characters, so that what stands between two
  signs can be looked at alone (`returnless_append_cons`).
-/

namespace Wireframe.Text

/-! ## Without them -/

/-- A text without the carriage returns that stand right before its line feeds. -/
def withoutReturns : List Char → List Char
  | [] => []
  | '\r' :: '\n' :: s => '\n' :: withoutReturns s
  | c :: s => c :: withoutReturns s

theorem withoutReturns_of_not_mem {s : List Char} (h : '\n' ∉ s) : withoutReturns s = s := by
  fun_induction withoutReturns s with
  | case1 => rfl
  | case2 s ih => simp at h
  | case3 c s hc ih => rw [ih fun hs => h (List.mem_cons_of_mem c hs)]

/-- A first line loses the carriage return at its end. -/
theorem withoutReturns_append_cons {s : List Char} (h : '\n' ∉ s) (t : List Char) :
    withoutReturns (s ++ '\n' :: t) = dropReturn s ++ '\n' :: withoutReturns t := by
  fun_induction dropReturn s with
  | case1 => rfl
  | case2 => rfl
  | case3 c s hc ih =>
    have hs : '\n' ∉ s := fun hs => h (List.mem_cons_of_mem c hs)
    rw [List.cons_append, withoutReturns, ih hs, List.cons_append]
    -- neither of the two characters that would be taken together is left
    intro u hr hu
    cases s with
    | nil => exact hc hr rfl
    | cons d s => exact hs ((List.cons.inj hu).1 ▸ List.mem_cons_self)

theorem lines_ne_nil {s : List Char} (h : s ≠ []) : lines s ≠ [] := by
  by_cases hm : '\n' ∈ s
  · obtain ⟨a, t, rfl, ha⟩ := List.eq_append_cons_of_mem hm
    rw [lines_append_cons, splitOn_of_not_mem ha]
    exact List.cons_ne_nil _ _
  · rw [lines_of_not_mem hm, if_neg h]
    exact List.cons_ne_nil _ _

theorem dropReturn_subset (s : List Char) : dropReturn s ⊆ s := by
  fun_induction dropReturn s with
  | case1 => exact List.Subset.refl []
  | case2 => exact List.nil_subset _
  | case3 c s hc ih => exact List.cons_subset_cons c ih

theorem not_mem_of_mem_lines {s line : List Char} (h : line ∈ lines s) : '\n' ∉ line := by
  have hparts : ∀ {ps : List (List Char)}, (∀ p ∈ ps, '\n' ∉ p) → ∀ line ∈ linesOfParts ps, '\n' ∉ line := by
    intro ps hps
    fun_induction linesOfParts ps with
    | case1 => exact nofun
    | case2 => exact nofun
    | case3 last hlast => exact hps
    | case4 p q r ih =>
      obtain ⟨hp, hr⟩ := List.forall_mem_cons.mp hps
      exact List.forall_mem_cons.mpr ⟨fun hn => hp (dropReturn_subset p hn), ih hr⟩
  exact hparts (fun _ hp => not_mem_of_mem_splitOn hp) line h

theorem joinWith_lines {s : List Char} (h : ∀ t, s ≠ t ++ ['\n']) : joinWith ['\n'] (lines s) = withoutReturns s := by
  -- by induction on what is left after the first line
  induction hn : s.length using Nat.strong_induction_on generalizing s with
  | _ n ih =>
    by_cases hm : '\n' ∈ s
    · obtain ⟨a, t, rfl, ha⟩ := List.eq_append_cons_of_mem hm
      have hrest : ∀ u, t ≠ u ++ ['\n'] := fun u hu => h (a ++ '\n' :: u) (by simp [hu])
      have hne : t ≠ [] := fun ht => h a (by rw [ht])
      have hlen : t.length < n := by
        rw [← hn, List.length_append, List.length_cons]
        omega
      rw [lines_append_cons, splitOn_of_not_mem ha, List.map_singleton, List.singleton_append,
        joinWith_cons _ _ (lines_ne_nil hne), ih _ hlen hrest rfl, withoutReturns_append_cons ha, List.append_assoc]
      rfl
    · rw [lines_of_not_mem hm, withoutReturns_of_not_mem hm]
      split
      · next hs => rw [hs, joinWith]
      · rw [joinWith]

/-! ## Having none -/

/-- No carriage return stands right before a line feed. -/
def Returnless (s : List Char) : Prop := s.IsChain fun c d => c = '\r' → d ≠ '\n'

instance : DecidablePred Returnless := fun s =>
  inferInstanceAs (Decidable (s.IsChain fun c d => c = '\r' → d ≠ '\n'))

theorem returnless_nil : Returnless [] := .nil

variable {c : Char} {s t : List Char}

theorem returnless_cons : Returnless (c :: s) ↔ (c = '\r' → s.head? ≠ some '\n') ∧ Returnless s := by
  rw [Returnless, List.isChain_cons]
  refine and_congr_left fun _ => ⟨fun h hc hs => h '\n' hs hc rfl, fun h d hd hc hn => h hc ?_⟩
  rw [← hn]
  exact hd

/-- A sign that is neither stands between two texts, each of which can be looked at alone. -/
theorem returnless_append_cons (hr : c ≠ '\r') (hn : c ≠ '\n') :
    Returnless (s ++ c :: t) ↔ Returnless s ∧ Returnless t := by
  induction s with
  | nil =>
    rw [List.nil_append, returnless_cons]
    simp [hr, returnless_nil]
  | cons d s ih =>
    have hhead : (s ++ c :: t).head? = some '\n' ↔ s.head? = some '\n' := by
      cases s <;> simp [hn]
    rw [List.cons_append, returnless_cons, returnless_cons, ih, ne_eq, hhead, and_assoc]

theorem returnless_append_of_not_mem (h : '\r' ∉ s) : Returnless (s ++ t) ↔ Returnless t := by
  induction s with
  | nil => rfl
  | cons d s ih =>
    obtain ⟨hd, hs⟩ := not_or.mp (mt List.mem_cons.mpr h)
    rw [List.cons_append, returnless_cons, ih hs]
    exact and_iff_right fun he => absurd he.symm hd

/-- A text is as it is without these carriage returns exactly when it has none. -/
theorem withoutReturns_eq_self_iff : withoutReturns s = s ↔ Returnless s := by
  fun_induction withoutReturns s with
  | case1 => exact iff_of_true rfl returnless_nil
  | case2 s ih => simp [returnless_cons]
  | case3 c s hc ih =>
    rw [List.cons_inj_right, ih, returnless_cons, iff_and_self]
    intro _ hr hs
    obtain ⟨u, hu⟩ := List.head?_eq_some_iff.mp hs
    exact hc u hr hu

end Wireframe.Text
