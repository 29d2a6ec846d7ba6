import Mathlib.Data.List.Nodup
import Wireframe.Members

/-!
# Members by their keys

Members that are in order are determined by what their keys are bound to, so ways of building and selecting them can be
compared by look-ups.

* **Membership** (`mem_iff_lookup`, `eq_of_mem_iff`): where keys differ, a member is what its key is bound to.
* **Building** (`mem_of_mem_sort`, `sort_eq_sort_iff`, `ofList_eq_sort`, `ofList_eq_self`): sorting adds no members and
  forgets nothing but their order; where keys differ, it does not matter which one of a key counts.
* **Changing** (`insert_map`, `sort_map`): values can be changed before sorting or after it.
* **Selecting** (`filter_named`, `flatMap_named`): the members with some names, in the order of the names.
-/

namespace Wireframe.Members

variable {α β : Type}

/-! ## Membership -/

theorem Ascending.nodup_keys {ms : List (String × α)} (h : Ascending ms) : (ms.map Prod.fst).Nodup :=
  (List.pairwise_map.mpr h).imp fun hlt => String.ne_of_lt hlt

/-- Where keys differ, a member is what its key is bound to. -/
theorem mem_iff_lookup {ms : List (String × α)} (h : (ms.map Prod.fst).Nodup) {k : String} {a : α} :
    (k, a) ∈ ms ↔ ms.lookup k = some a := by
  induction ms with
  | nil => simp
  | cons m ms ih =>
    obtain ⟨l, b⟩ := m
    obtain ⟨hl, hms⟩ := List.nodup_cons.mp h
    rw [lookup_cons_ite, List.mem_cons, ih hms]
    by_cases hk : k = l
    · subst hk
      have hno : ms.lookup k ≠ some a := fun ha =>
        hl (List.mem_map.mpr ⟨(k, a), (ih hms).mpr ha, rfl⟩)
      simp [hno, eq_comm]
    · simp [hk]

/-- What a key of any type is bound to is one of the members. -/
theorem mem_of_lookup {κ : Type} [BEq κ] [LawfulBEq κ] {ms : List (κ × α)} {k : κ} {a : α}
    (h : ms.lookup k = some a) : (k, a) ∈ ms := by
  obtain ⟨before, after, rfl, _⟩ := List.lookup_eq_some_iff.mp h
  exact List.mem_append_right _ List.mem_cons_self

theorem eq_of_mem_iff {ms ns : List (String × α)} (hm : Ascending ms) (hn : Ascending ns)
    (h : ∀ m, m ∈ ms ↔ m ∈ ns) : ms = ns := by
  have hperm : ms.Perm ns :=
    (List.perm_ext_iff_of_nodup (.of_map _ hm.nodup_keys) (.of_map _ hn.nodup_keys)).mpr h
  refine List.Perm.eq_of_pairwise (fun a b _ _ hab hba => ?_) hm hn hperm
  exact absurd hab (String.lt_asymm hba)

/-! ## Building -/

theorem mem_of_mem_sort {ms : List (String × α)} {m : String × α} (h : m ∈ sort ms) : m ∈ ms := by
  induction ms with
  | nil => exact h
  | cons n ms ih =>
    rcases key_mem_insert h with rfl | h
    · exact List.mem_cons_self
    · exact List.mem_cons_of_mem _ (ih h)

/-- Sorted members are equal when the keys are bound to the same. -/
theorem sort_eq_sort_iff {ms ns : List (String × α)} :
    sort ms = sort ns ↔ ∀ k, ms.lookup k = ns.lookup k := by
  constructor
  · intro h k
    rw [← lookup_sort, h, lookup_sort]
  · intro h
    refine eq_of_mem_iff (ascending_sort ms) (ascending_sort ns) fun (k, a) => ?_
    rw [mem_iff_lookup (ascending_sort ms).nodup_keys, mem_iff_lookup (ascending_sort ns).nodup_keys, lookup_sort,
      lookup_sort, h k]

/-- Where keys differ, the last one of each key is the first one too. -/
theorem ofList_eq_sort {ms : List (String × α)} (h : (ms.map Prod.fst).Nodup) : ofList ms = sort ms := by
  -- building is sorting from the other end, and both keep the members
  have hrev : ofList ms = sort ms.reverse := List.foldl_eq_foldr_reverse
  have hmem : ∀ {ns : List (String × α)}, (ns.map Prod.fst).Nodup → ∀ m, m ∈ sort ns ↔ m ∈ ns := by
    rintro ns hns ⟨k, a⟩
    rw [mem_iff_lookup (ascending_sort ns).nodup_keys, lookup_sort, mem_iff_lookup hns]
  rw [hrev]
  refine eq_of_mem_iff (ascending_sort _) (ascending_sort _) fun m => ?_
  rw [hmem (by rwa [List.map_reverse, List.nodup_reverse]), hmem h, List.mem_reverse]

theorem ofList_eq_self {ms : List (String × α)} (h : Ascending ms) : ofList ms = ms :=
  (ofList_eq_sort h.nodup_keys).trans (sort_eq_self h)

/-! ## Changing -/

theorem insert_map (f : α → β) (key : String) (value : α) (ms : List (String × α)) :
    insert key (f value) (ms.map fun m => (m.1, f m.2)) = (insert key value ms).map fun m => (m.1, f m.2) := by
  induction ms with
  | nil => rfl
  | cons m ms ih =>
    rw [List.map_cons, insert, insert]
    split
    · rfl
    · split
      · rfl
      · rw [ih, List.map_cons]

theorem sort_map (f : α → β) (ms : List (String × α)) :
    sort (ms.map fun m => (m.1, f m.2)) = (sort ms).map fun m => (m.1, f m.2) := by
  induction ms with
  | nil => rfl
  | cons m ms ih =>
    have h : ∀ {γ : Type} (n : String × γ) ns, sort (n :: ns) = insert n.1 n.2 (sort ns) := fun _ _ => rfl
    rw [List.map_cons, h, h, ih]
    exact insert_map f m.1 m.2 (sort ms)

/-! ## Selecting -/

/-- Of members that are in order, those with some names are what the names are bound to, in the order of the names. -/
theorem filter_named {ms : List (String × α)} (hm : Ascending ms) {names : List String}
    (hnames : names.Pairwise (· < ·)) : (ms.filter fun m => decide (m.1 ∈ names)) =
      names.filterMap fun n => (ms.lookup n).map fun a => (n, a) := by
  refine eq_of_mem_iff (hm.filter _) (hnames.filterMap _ ?_) ?_
  · rintro a b hab _ hx _ hy
    obtain ⟨_, _, rfl⟩ := Option.map_eq_some_iff.mp hx
    obtain ⟨_, _, rfl⟩ := Option.map_eq_some_iff.mp hy
    exact hab
  · rintro ⟨k, a⟩
    rw [List.mem_filter, List.mem_filterMap, mem_iff_lookup hm.nodup_keys, decide_eq_true_iff]
    constructor
    · rintro ⟨hl, hk⟩
      exact ⟨k, hk, by rw [hl, Option.map_some]⟩
    · rintro ⟨n, hn, hx⟩
      obtain ⟨b, hb, he⟩ := Option.map_eq_some_iff.mp hx
      cases he
      exact ⟨hb, hn⟩

/-- What members in order give, when only those with some names give anything. -/
theorem flatMap_named {ms : List (String × α)} (hm : Ascending ms) {names : List String}
    (hnames : names.Pairwise (· < ·)) {f : String × α → List β} (hf : ∀ m, m.1 ∉ names → f m = []) :
    ms.flatMap f = names.flatMap fun n => ((ms.lookup n).map fun a => f (n, a)).getD [] := by
  have hfilter : ms.flatMap f = (ms.filter fun m => decide (m.1 ∈ names)).flatMap f := by
    clear hm
    induction ms with
    | nil => rfl
    | cons m ms ih =>
      by_cases hmem : m.1 ∈ names
      · rw [List.filter_cons_of_pos (by simpa using hmem), List.flatMap_cons, List.flatMap_cons, ih]
      · rw [List.filter_cons_of_neg (by simpa using hmem), List.flatMap_cons, hf m hmem, ih, List.nil_append]
  rw [hfilter, filter_named hm hnames]
  clear hnames hf hfilter
  induction names with
  | nil => rfl
  | cons n names ih =>
    rw [List.flatMap_cons, ← ih, List.filterMap_cons]
    cases ms.lookup n <;> rfl

end Wireframe.Members
