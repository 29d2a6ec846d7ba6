import Mathlib.Data.List.Pairwise
import Wireframe.Issue
import Wireframe.Proofs.ByteOrder

/-!
# Issues in order

Sorted issues do not depend on the order in which they were found.

* **Comparing** (`transCmp_on`, `transCmp_then`): part by part, one after the other.
* **Before** (`Segment.Before`, `Path.Before`, `Issue.Before`): the order as relations, and that comparing decides them
  (`Issue.compare_eq_lt_iff`).
* **Ties** (`Issue.Tied`): issues compare as equal when they differ in their reference at most.
* **Sorting** (`Issue.pairwise_sort`, `Issue.filter_tied_sort`): in order, and tied issues as they were.
* **Two runs** (`Issue.map_unreferenced_sort`, `Issue.sorted_alike`): the same issues in another order are sorted to the
  same list, up to the references of issues that are tied.
-/

namespace Wireframe

/-! ## Comparing -/

/-- Comparing a part of what is compared is consistent if comparing the parts is. -/
theorem transCmp_on {α β : Type} {order : β → β → Ordering} [Std.TransCmp order] (f : α → β) :
    Std.TransCmp fun a b => order (f a) (f b) where
  eq_swap := Std.OrientedCmp.eq_swap
  isLE_trans := Std.TransCmp.isLE_trans

/-- Comparing one way and then another is consistent if both are. -/
theorem transCmp_then {α : Type} {first next : α → α → Ordering} (hfirst : Std.TransCmp first)
    (hnext : Std.TransCmp next) : Std.TransCmp fun a b => (first a b).then (next a b) :=
  inferInstanceAs (Std.TransCmp (compareLex first next))

/-! ## Severities -/

namespace Severity

instance : Std.TransCmp compare where
  eq_swap {a b} := by cases a <;> cases b <;> rfl
  isLE_trans {a b c} := by cases a <;> cases b <;> cases c <;> decide

instance : Std.LawfulEqCmp compare where
  compare_self {a} := by cases a <;> rfl
  eq_of_compare {a b} := by cases a <;> cases b <;> decide

theorem compare_eq_lt_iff (a b : Severity) : a.compare b = .lt ↔ a = .error ∧ b = .warning := by
  cases a <;> cases b <;> decide

end Severity

/-! ## Paths -/

namespace Segment

/-- Keys come before indices; keys are ordered by their bytes and indices by size. -/
inductive Before : Segment → Segment → Prop
  | keys {a b : String} (h : a.toUTF8.toList < b.toUTF8.toList) : Before (key a) (key b)
  | mixed (name : String) (position : Nat) : Before (key name) (index position)
  | indices {i j : Nat} (h : i < j) : Before (index i) (index j)

instance : Std.TransCmp compare where
  eq_swap {a b} := by
    cases a <;> cases b
    · exact Std.OrientedOrd.eq_swap
    · rfl
    · rfl
    · exact Std.OrientedOrd.eq_swap
  isLE_trans {a b c} hab hbc := by
    cases a <;> cases b <;> cases c
    · exact Std.TransOrd.isLE_trans hab hbc
    · rfl
    · cases hbc
    · rfl
    · cases hab
    · cases hab
    · cases hbc
    · exact Std.TransOrd.isLE_trans hab hbc

instance : Std.LawfulEqCmp compare where
  compare_self {a} := by
    cases a
    · exact Std.ReflOrd.compare_self
    · exact Std.ReflOrd.compare_self
  eq_of_compare {a b} h := by
    cases a <;> cases b
    · exact congrArg key (Std.LawfulEqOrd.eq_of_compare h)
    · cases h
    · cases h
    · exact congrArg index (Std.LawfulEqOrd.eq_of_compare h)

theorem compare_eq_lt_iff (a b : Segment) : a.compare b = .lt ↔ a.Before b := by
  cases a with
  | key k =>
    cases b with
    | key l => exact Text.compare_eq_lt_iff.trans ⟨.keys, fun | .keys h => h⟩
    | index j => exact iff_of_true rfl (.mixed k j)
  | index i =>
    cases b with
    | key l => exact iff_of_false (fun h => nomatch h) (fun h => nomatch h)
    | index j => exact Nat.compare_eq_lt.trans ⟨.indices, fun | .indices h => h⟩

end Segment

namespace Path

/-- Paths are ordered by the first segment in which they differ, and a path comes before those that go on from it. -/
def Before (p q : Path) : Prop := List.Lex Segment.Before p.segments q.segments

instance : Std.TransCmp compare := transCmp_on segments

instance : Std.LawfulEqCmp compare where
  compare_self {p} := by
    rw [compare]
    exact Std.ReflCmp.compare_self
  eq_of_compare {p q} h := by
    rw [compare] at h
    exact congrArg mk (Std.LawfulEqCmp.eq_of_compare h)

theorem compare_eq_lt_iff (p q : Path) : p.compare q = .lt ↔ p.Before q := by
  obtain ⟨p⟩ := p
  obtain ⟨q⟩ := q
  rw [compare, Before]
  induction p generalizing q with
  | nil =>
    cases q with
    | nil => exact iff_of_false (fun h => nomatch h) List.not_lex_nil
    | cons t q => exact iff_of_true rfl .nil
  | cons s p ih =>
    cases q with
    | nil => exact iff_of_false (fun h => nomatch h) List.not_lex_nil
    | cons t q =>
      rw [List.compareLex_cons_cons, Ordering.then_eq_lt, List.cons_lex_cons_iff, Segment.compare_eq_lt_iff,
        Std.LawfulEqCmp.compare_eq_iff_eq, ih]

end Path

namespace Issue

/-! ## The order of issues -/

/-- Issues are ordered by severity, errors first, then by kind, then by path, then by message. -/
inductive Before (a b : Issue) : Prop
  | severity (h : a.severity = .error ∧ b.severity = .warning)
  | kind (hseverity : a.severity = b.severity) (h : a.kind.toUTF8.toList < b.kind.toUTF8.toList)
  | path (hseverity : a.severity = b.severity) (hkind : a.kind = b.kind) (h : a.path.Before b.path)
  | message (hseverity : a.severity = b.severity) (hkind : a.kind = b.kind) (hpath : a.path = b.path)
      (h : a.message.toUTF8.toList < b.message.toUTF8.toList)

/-- Issues with the same severity, kind, path and message. -/
structure Tied (a b : Issue) : Prop where
  severity : a.severity = b.severity
  kind : a.kind = b.kind
  path : a.path = b.path
  message : a.message = b.message

theorem Tied.symm {a b : Issue} (h : a.Tied b) : b.Tied a :=
  ⟨h.severity.symm, h.kind.symm, h.path.symm, h.message.symm⟩

theorem Tied.trans {a b c : Issue} (hab : a.Tied b) (hbc : b.Tied c) : a.Tied c :=
  ⟨hab.severity.trans hbc.severity, hab.kind.trans hbc.kind, hab.path.trans hbc.path, hab.message.trans hbc.message⟩

def unreferenced (i : Issue) : Issue := { i with reference := none }

/-- Tied issues are the same up to their references. -/
theorem tied_iff {a b : Issue} : a.Tied b ↔ a.unreferenced = b.unreferenced := by
  constructor
  · rintro ⟨hseverity, hkind, hpath, hmessage⟩
    rw [unreferenced, unreferenced, hseverity, hkind, hpath, hmessage]
  · intro h
    rw [unreferenced, unreferenced, mk.injEq] at h
    obtain ⟨hkind, hseverity, hpath, hmessage, -⟩ := h
    exact ⟨hseverity, hkind, hpath, hmessage⟩

instance (a b : Issue) : Decidable (a.Tied b) := decidable_of_iff _ tied_iff.symm

theorem compare_eq_lt_iff (a b : Issue) : a.compare b = .lt ↔ a.Before b := by
  simp only [compare, Ordering.then_eq_lt, Severity.compare_eq_lt_iff, Text.compare_eq_lt_iff,
    Path.compare_eq_lt_iff, Std.LawfulEqCmp.compare_eq_iff_eq]
  constructor
  · rintro (h | ⟨hseverity, h | ⟨hkind, h | ⟨hpath, h⟩⟩⟩)
    · exact .severity h
    · exact .kind hseverity h
    · exact .path hseverity hkind h
    · exact .message hseverity hkind hpath h
  · rintro (h | ⟨hseverity, h⟩ | ⟨hseverity, hkind, h⟩ | ⟨hseverity, hkind, hpath, h⟩)
    · exact .inl h
    · exact .inr ⟨hseverity, .inl h⟩
    · exact .inr ⟨hseverity, .inr ⟨hkind, .inl h⟩⟩
    · exact .inr ⟨hseverity, .inr ⟨hkind, .inr ⟨hpath, h⟩⟩⟩

theorem compare_eq_eq_iff (a b : Issue) : a.compare b = .eq ↔ a.Tied b := by
  simp only [compare, Ordering.then_eq_eq, Std.LawfulEqCmp.compare_eq_iff_eq]
  exact ⟨fun ⟨hseverity, hkind, hpath, hmessage⟩ => ⟨hseverity, hkind, hpath, hmessage⟩,
    fun ⟨hseverity, hkind, hpath, hmessage⟩ => ⟨hseverity, hkind, hpath, hmessage⟩⟩

instance : Std.TransCmp compare :=
  transCmp_then (transCmp_on severity) (transCmp_then (transCmp_on kind)
    (transCmp_then (transCmp_on path) (transCmp_on message)))

theorem isLE_compare_iff (a b : Issue) : (a.compare b).isLE = true ↔ a.Before b ∨ a.Tied b := by
  rw [Ordering.isLE_iff_eq_lt_or_eq_eq, compare_eq_lt_iff, compare_eq_eq_iff]

theorem isLE_compare_trans (a b c : Issue) (hab : (a.compare b).isLE = true) (hbc : (b.compare c).isLE = true) :
    (a.compare c).isLE = true := Std.TransCmp.isLE_trans hab hbc

theorem isLE_compare_total (a b : Issue) : ((a.compare b).isLE || (b.compare a).isLE) = true := by
  have hswap : b.compare a = (a.compare b).swap := Std.OrientedCmp.eq_swap
  rw [hswap]
  cases a.compare b <;> rfl

/-! ## Sorting -/

variable {issues others : List Issue}

theorem sort_perm (issues : List Issue) : (sort issues).Perm issues := List.mergeSort_perm issues _

theorem sort_perm_sort (h : others.Perm issues) : (sort others).Perm (sort issues) :=
  ((sort_perm others).trans h).trans (sort_perm issues).symm

theorem pairwise_isLE_sort (issues : List Issue) : (sort issues).Pairwise fun a b => (a.compare b).isLE = true :=
  List.pairwise_mergeSort isLE_compare_trans isLE_compare_total issues

/-- **Sorted issues are in order.** -/
theorem pairwise_sort (issues : List Issue) : (sort issues).Pairwise fun a b => a.Before b ∨ a.Tied b :=
  (pairwise_isLE_sort issues).imp fun {a b} => (isLE_compare_iff a b).mp

/-- **Tied issues keep their order.** -/
theorem filter_tied_sort (i : Issue) (issues : List Issue) :
    ((sort issues).filter fun a => i.Tied a) = issues.filter fun a => i.Tied a := by
  have htied : ∀ a ∈ issues.filter fun a => i.Tied a, i.Tied a := fun a ha =>
    of_decide_eq_true (List.mem_filter.mp ha).2
  have hpairs : (issues.filter fun a => i.Tied a).Pairwise fun a b => (a.compare b).isLE = true := by
    refine List.pairwise_of_forall_mem_list fun a ha b hb => (isLE_compare_iff a b).mpr (.inr ?_)
    exact (htied a ha).symm.trans (htied b hb)
  -- so they are a part of the sorted list, which has no others of this kind
  have hpart := List.sublist_mergeSort isLE_compare_trans isLE_compare_total hpairs List.filter_sublist
  have hsub := hpart.filter fun a => i.Tied a
  rw [List.filter_eq_self.mpr fun a ha => decide_eq_true (htied a ha)] at hsub
  exact (hsub.eq_of_length ((sort_perm issues).filter _).length_eq.symm).symm

/-! ## Two runs -/

/-- **The same issues are sorted to the same list up to their references**, in whatever order they were found. -/
theorem map_unreferenced_sort (h : others.Perm issues) :
    (sort others).map unreferenced = (sort issues).map unreferenced := by
  have hordered (l : List Issue) : ((sort l).map unreferenced).Pairwise fun a b => (a.compare b).isLE = true :=
    List.pairwise_map.mpr (pairwise_isLE_sort l)
  refine List.Perm.eq_of_pairwise (fun a b ha hb hab hba => ?_) (hordered others) (hordered issues)
    ((sort_perm_sort h).map unreferenced)
  obtain ⟨a, -, rfl⟩ := List.mem_map.mp ha
  obtain ⟨b, -, rfl⟩ := List.mem_map.mp hb
  have hsame := tied_iff.mp ((compare_eq_eq_iff _ _).mp (Std.OrientedCmp.isLE_antisymm hab hba))
  exact hsame

/-- **Where two runs differ, there is a tie**: the issue of the one run stands at another place of the other one. -/
theorem exists_tied_of_ne (h : others.Perm issues) {n : Nat} {a b : Issue} (ha : (sort others)[n]? = some a)
    (hb : (sort issues)[n]? = some b) (hne : a ≠ b) : a.Tied b ∧ ∃ m ≠ n, (sort issues)[m]? = some a := by
  have hsame : ((sort others).map unreferenced)[n]? = ((sort issues).map unreferenced)[n]? := by
    rw [map_unreferenced_sort h]
  rw [List.getElem?_map, List.getElem?_map, ha, hb] at hsame
  have hmem : a ∈ sort issues := (sort_perm_sort h).mem_iff.mp (List.mem_of_getElem? ha)
  obtain ⟨m, hm⟩ := List.mem_iff_getElem?.mp hmem
  refine ⟨tied_iff.mpr (Option.some.inj hsame), m, ?_, hm⟩
  rintro rfl
  exact hne (Option.some.inj (hm.symm.trans hb))

/-- **Without ties there is one sorted list.** -/
theorem sort_eq_of_untied (h : others.Perm issues) (hties : issues.Pairwise fun a b => ¬a.Tied b) :
    sort others = sort issues := by
  have : Std.Symm fun a b : Issue => ¬a.Tied b := ⟨fun a b hab hba => hab hba.symm⟩
  refine List.Perm.eq_of_pairwise (fun a b ha hb hab hba => ?_) (pairwise_isLE_sort others)
    (pairwise_isLE_sort issues) (sort_perm_sort h)
  have htied : a.Tied b := (compare_eq_eq_iff a b).mp (Std.OrientedCmp.isLE_antisymm hab hba)
  have haIssues : a ∈ issues := h.mem_iff.mp ((sort_perm others).mem_iff.mp ha)
  have hbIssues : b ∈ issues := (sort_perm issues).mem_iff.mp hb
  exact Decidable.byContradiction fun hne => hties.forall haIssues hbIssues hne htied

/-- **Sorted issues do not depend on how they were found.** They are the same issues, in order, and issues that are tied
stand in the order in which they were found. Issues that were found in another order are sorted to a list with the
same issues up to their references; where a reference differs, the issue stands at another place of the list too, so
the place is tied, and where nothing is tied, the lists are the same. -/
theorem sorted_alike (issues : List Issue) :
    (sort issues).Perm issues ∧
    ((sort issues).Pairwise fun a b : Issue => a.Before b ∨ a.Tied b) ∧
    (∀ i : Issue, ((sort issues).filter fun a => i.Tied a) = issues.filter fun a => i.Tied a) ∧
    ∀ others : List Issue, others.Perm issues →
      (sort others).map unreferenced = (sort issues).map unreferenced ∧
      (∀ (n : Nat) (a b : Issue), (sort others)[n]? = some a → (sort issues)[n]? = some b → a ≠ b →
        a.Tied b ∧ ∃ m ≠ n, (sort issues)[m]? = some a) ∧
      ((issues.Pairwise fun a b : Issue => ¬a.Tied b) → sort others = sort issues) :=
  ⟨sort_perm issues, pairwise_sort issues, fun i => filter_tied_sort i issues, fun _ h =>
    ⟨map_unreferenced_sort h, fun _ _ _ => exists_tied_of_ne h, sort_eq_of_untied h⟩⟩

/-- Two issues with different references stand as they were found, so both runs have both; an error and a warning are
sorted to one list. -/
theorem sorted_alike_references :
    (sort [⟨"k", .error, .root, "m", some "b"⟩, ⟨"k", .error, .root, "m", none⟩])[0]? =
      some ⟨"k", .error, .root, "m", some "b"⟩ ∧
    (∃ m ≠ 0, (sort [⟨"k", .error, .root, "m", none⟩, ⟨"k", .error, .root, "m", some "b"⟩])[m]? =
      some ⟨"k", .error, .root, "m", some "b"⟩) ∧
    sort [⟨"k", .warning, .root, "m", none⟩, ⟨"k", .error, .root, "m", some "b"⟩] =
      sort [⟨"k", .error, .root, "m", some "b"⟩, ⟨"k", .warning, .root, "m", none⟩] := by
  have hstays (r s : Option String) : sort [⟨"k", .error, .root, "m", r⟩, ⟨"k", .error, .root, "m", s⟩] =
      [⟨"k", .error, .root, "m", r⟩, ⟨"k", .error, .root, "m", s⟩] := by
    refine List.mergeSort_of_pairwise (List.pairwise_pair.mpr ?_)
    exact (isLE_compare_iff _ _).mpr (.inr ⟨rfl, rfl, rfl, rfl⟩)
  obtain ⟨-, -, -, htied⟩ := sorted_alike [⟨"k", .error, .root, "m", none⟩, ⟨"k", .error, .root, "m", some "b"⟩]
  obtain ⟨-, hplaces, -⟩ := htied _ (List.Perm.swap _ _ [])
  obtain ⟨-, -, -, huntied⟩ := sorted_alike [⟨"k", .error, .root, "m", some "b"⟩, ⟨"k", .warning, .root, "m", none⟩]
  obtain ⟨-, -, hone⟩ := huntied _ (List.Perm.swap _ _ [])
  have hfirst := congrArg (·[0]?) (hstays (some "b") none)
  exact ⟨hfirst, (hplaces 0 _ _ hfirst (congrArg (·[0]?) (hstays none (some "b"))) (by decide)).2,
    hone (List.pairwise_pair.mpr (by decide))⟩

end Issue

end Wireframe
