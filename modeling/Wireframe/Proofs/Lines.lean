import Wireframe.Text.Lines

/-!
# Lines of a text

* **Joining** (`joinWith_append`, `joinWith_append_sep`): joined texts are joined again, and may be ended.
* **Parts** (`splitOn_append_cons`, `splitOn_of_not_mem`): a separator between two texts separates their parts.
* **Parts of joined texts** (`splitOn_joinWith_eq_flatMap`, `splitOn_joinWith_iff`): they are the parts of each text,
  and the texts themselves exactly when the separator is in none of them.
* **Lines** (`lines_append`): what follows a text that has ended comes on lines of its own.
-/

namespace Wireframe.Text

def Ended (s : List Char) : Prop := s = [] ∨ ∃ t, s = t ++ ['\n']

/-! ## Joining -/

theorem joinWith_append (sep : List Char) {xs ys : List (List Char)} (hx : xs ≠ []) (hy : ys ≠ []) :
    joinWith sep (xs ++ ys) = joinWith sep xs ++ sep ++ joinWith sep ys := by
  induction xs with
  | nil => exact absurd rfl hx
  | cons x xs ih =>
    cases xs with
    | nil =>
      cases ys with
      | nil => exact absurd rfl hy
      | cons y ys => rfl
    | cons x' xs =>
      have h := ih (by simp)
      simp only [List.cons_append] at h
      simp only [List.cons_append, joinWith, h, List.append_assoc]

theorem joinWith_cons (sep x : List Char) {xs : List (List Char)} (h : xs ≠ []) :
    joinWith sep (x :: xs) = x ++ sep ++ joinWith sep xs :=
  joinWith_append sep (List.cons_ne_nil x []) h

/-- A separator after the last text too is a separator after each text. -/
theorem joinWith_append_sep (sep : List Char) {xs : List (List Char)} (h : xs ≠ []) :
    joinWith sep xs ++ sep = xs.flatMap (· ++ sep) := by
  induction xs with
  | nil => exact absurd rfl h
  | cons x xs ih =>
    cases xs with
    | nil => simp [joinWith]
    | cons y ys =>
      have h := ih (by simp)
      rw [joinWith, List.flatMap_cons, List.append_assoc, h, List.append_assoc]

theorem mem_joinWith {sep c : Char} {ps : List (List Char)} (h : c ∈ joinWith [sep] ps) :
    c = sep ∨ ∃ p ∈ ps, c ∈ p := by
  induction ps with
  | nil => cases h
  | cons p ps ih =>
    cases ps with
    | nil => exact .inr ⟨p, List.mem_cons_self, h⟩
    | cons q qs =>
      rw [joinWith, List.mem_append, List.mem_append, List.mem_singleton] at h
      rcases h with (h | h) | h
      · exact .inr ⟨p, List.mem_cons_self, h⟩
      · exact .inl h
      · rcases ih h with hsep | ⟨r, hr, hc⟩
        · exact .inl hsep
        · exact .inr ⟨r, List.mem_cons_of_mem p hr, hc⟩

/-! ## Parts -/

theorem splitOn_append_cons (sep : Char) (s t : List Char) :
    splitOn sep (s ++ sep :: t) = splitOn sep s ++ splitOn sep t := by
  induction s with
  | nil => simp [splitOn]
  | cons c s ih =>
    rw [List.cons_append, splitOn, splitOn, ih]
    split
    · rfl
    · cases hs : splitOn sep s with
      | nil => exact absurd hs (splitOn_ne_nil sep s)
      | cons p ps => rfl

theorem splitOn_of_not_mem {sep : Char} {s : List Char} (h : sep ∉ s) : splitOn sep s = [s] := by
  induction s with
  | nil => rfl
  | cons c s ih =>
    obtain ⟨hc, hs⟩ := not_or.mp (mt List.mem_cons.mpr h)
    rw [splitOn, if_neg (Ne.symm hc), ih hs]

theorem not_mem_of_mem_splitOn {sep : Char} {s p : List Char} (h : p ∈ splitOn sep s) : sep ∉ p := by
  induction s generalizing p with
  | nil =>
    rw [splitOn, List.mem_singleton] at h
    exact h ▸ List.not_mem_nil
  | cons c s ih =>
    rw [splitOn] at h
    split at h
    · rcases List.mem_cons.mp h with rfl | h
      · exact List.not_mem_nil
      · exact ih h
    · next hc =>
      cases hs : splitOn sep s with
      | nil => exact absurd hs (splitOn_ne_nil sep s)
      | cons q qs =>
        rw [hs] at h ih
        rcases List.mem_cons.mp h with rfl | h
        · exact List.not_mem_cons_of_ne_of_not_mem (Ne.symm hc) (ih List.mem_cons_self)
        · exact ih (List.mem_cons_of_mem q h)

/-! ## Parts of joined texts -/

/-- Joined texts are split where they were joined, and inside each of them. -/
theorem splitOn_joinWith_eq_flatMap (sep : Char) {ps : List (List Char)} (hne : ps ≠ []) :
    splitOn sep (joinWith [sep] ps) = ps.flatMap (splitOn sep) := by
  induction ps with
  | nil => exact absurd rfl hne
  | cons p ps ih =>
    by_cases hps : ps = []
    · subst hps
      rw [joinWith, List.flatMap_singleton]
    · rw [joinWith_cons _ _ hps, List.append_assoc, List.singleton_append, splitOn_append_cons, ih hps,
        List.flatMap_cons]

/-- Texts without the separator are split again where they were joined. -/
theorem splitOn_joinWith {sep : Char} {ps : List (List Char)} (hne : ps ≠ []) (h : ∀ p ∈ ps, sep ∉ p) :
    splitOn sep (joinWith [sep] ps) = ps := by
  rw [splitOn_joinWith_eq_flatMap sep hne]
  clear hne
  induction ps with
  | nil => rfl
  | cons p ps ih =>
    obtain ⟨hp, hps⟩ := List.forall_mem_cons.mp h
    rw [List.flatMap_cons, splitOn_of_not_mem hp, ih hps, List.singleton_append]

/-- Joined texts are split where they were joined, and nowhere else, exactly when none of them has the separator. -/
theorem splitOn_joinWith_iff {sep : Char} {ps : List (List Char)} (hne : ps ≠ []) :
    splitOn sep (joinWith [sep] ps) = ps ↔ ∀ p ∈ ps, sep ∉ p :=
  ⟨fun h _ hp => not_mem_of_mem_splitOn (h.symm ▸ hp), splitOn_joinWith hne⟩

/-- Texts that are ended one by one are split where they end; nothing is after the last one. -/
theorem splitOn_ended {sep : Char} {ps : List (List Char)} (h : ∀ p ∈ ps, sep ∉ p) :
    splitOn sep (ps.flatMap (· ++ [sep])) = ps ++ [[]] := by
  have hjoin : ps.flatMap (· ++ [sep]) = joinWith [sep] (ps ++ [[]]) := by
    by_cases hps : ps = []
    · subst hps
      rfl
    · rw [joinWith_append _ hps (by simp), joinWith, List.append_nil, joinWith_append_sep _ hps]
  rw [hjoin]
  refine splitOn_joinWith (by simp) fun p hp => ?_
  rcases List.mem_append.mp hp with hp | hp
  · exact h p hp
  · exact List.mem_singleton.mp hp ▸ List.not_mem_nil

/-! ## Lines -/

theorem linesOfParts_append (ps : List (List Char)) {qs : List (List Char)} (h : qs ≠ []) :
    linesOfParts (ps ++ qs) = ps.map dropReturn ++ linesOfParts qs := by
  induction ps with
  | nil => rfl
  | cons p ps ih =>
    obtain ⟨q, r, hr⟩ := List.exists_cons_of_ne_nil (List.append_ne_nil_of_right_ne_nil ps h)
    rw [List.cons_append, hr, linesOfParts, ← hr, ih]
    rfl

/-- The parts before a line feed are lines. -/
theorem lines_append_cons (s t : List Char) :
    lines (s ++ '\n' :: t) = (splitOn '\n' s).map dropReturn ++ lines t := by
  rw [lines, splitOn_append_cons, linesOfParts_append _ (splitOn_ne_nil '\n' t)]
  rfl

/-- The lines after a text that has ended come after its own. -/
theorem lines_append {s : List Char} (h : Ended s) (t : List Char) : lines (s ++ t) = lines s ++ lines t := by
  rcases h with rfl | ⟨s, rfl⟩
  · rfl
  · rw [List.append_assoc, List.singleton_append, lines_append_cons, lines_append_cons]
    simp [lines, splitOn, linesOfParts]

theorem dropReturn_of_last {s : List Char} {c : Char} (hc : c ≠ '\r') : dropReturn (s ++ [c]) = s ++ [c] := by
  induction s with
  | nil => simp [dropReturn, hc]
  | cons d s ih =>
    rw [List.cons_append, dropReturn.eq_3, ih]
    intro _ h
    simp at h

theorem lines_singleton {s : List Char} {c : Char} (hs : '\n' ∉ s ++ [c]) (hc : c ≠ '\r') :
    lines (s ++ [c] ++ ['\n']) = [s ++ [c]] := by
  rw [lines_append_cons, splitOn_of_not_mem hs, List.map_singleton, dropReturn_of_last hc]
  rfl

theorem lines_of_not_mem {s : List Char} (hs : '\n' ∉ s) : lines s = if s = [] then [] else [s] := by
  rw [lines, splitOn_of_not_mem hs]
  simp [linesOfParts]

end Wireframe.Text
