/-!
# Members in key order

A map from texts to values, kept as the list of its members in ascending order of their keys.

* **The order** (`Ascending`): every key is less than the keys after it; texts are ordered by code points.
* **Insertion** (`insert`): puts a member in its place and replaces one of the same key; it keeps the order
  (`ascending_insert`) and changes only the look-up of its own key (`lookup_insert`).
* **Building** (`ofList`): a later member replaces an earlier one of the same key.
-/

namespace Wireframe.Members

variable {α β : Type}

/-- Every key is less than the keys that come after it. -/
def Ascending (ms : List (String × α)) : Prop := ms.Pairwise fun a b => a.1 < b.1

/-- The members with `key` set to `value`. -/
def insert (key : String) (value : α) : List (String × α) → List (String × α)
  | [] => [(key, value)]
  | m :: ms =>
    if key < m.1 then (key, value) :: m :: ms
    else if key = m.1 then (key, value) :: ms
    else m :: insert key value ms

/-- The members in key order, where the last one of each key counts. -/
def ofList (ms : List (String × α)) : List (String × α) := ms.foldl (fun acc m => insert m.1 m.2 acc) []

/-- The members in key order, where the first one of each key counts. -/
def sort (ms : List (String × α)) : List (String × α) := ms.foldr (fun m acc => insert m.1 m.2 acc) []

/-! ## The order -/

/-- A key after an insertion is the inserted one or an old one. -/
theorem key_mem_insert {key : String} {value : α} {ms : List (String × α)} {m : String × α}
    (h : m ∈ insert key value ms) : m = (key, value) ∨ m ∈ ms := by
  induction ms with
  | nil => simpa [insert] using h
  | cons n ms ih =>
    rw [insert] at h
    split at h
    · simpa using h
    · split at h
      · rcases List.mem_cons.mp h with h | h
        · exact Or.inl h
        · exact Or.inr (List.mem_cons_of_mem _ h)
      · rcases List.mem_cons.mp h with h | h
        · exact Or.inr (h ▸ List.mem_cons_self)
        · exact (ih h).imp id (List.mem_cons_of_mem _)

theorem ascending_insert {ms : List (String × α)} (key : String) (value : α) (h : Ascending ms) :
    Ascending (insert key value ms) := by
  unfold Ascending at h ⊢
  induction ms with
  | nil => simp [insert]
  | cons n ms ih =>
    obtain ⟨hn, hms⟩ := List.pairwise_cons.mp h
    rw [insert]
    split
    · next hlt =>
      exact List.pairwise_cons.mpr
        ⟨fun m hm => (List.mem_cons.mp hm).elim (fun e => e ▸ hlt) (fun hm => String.lt_trans hlt (hn m hm)), h⟩
    · next hnlt =>
      split
      · next heq => exact List.pairwise_cons.mpr ⟨fun m hm => by simpa [heq] using hn m hm, hms⟩
      · next hne =>
        refine List.pairwise_cons.mpr ⟨fun m hm => ?_, ih hms⟩
        rcases key_mem_insert hm with rfl | hm
        · rcases Std.lt_trichotomy key n.1 with h | h | h
          · exact absurd h hnlt
          · exact absurd h hne
          · exact h
        · exact hn m hm

theorem ascending_foldl_insert (xs ms : List (String × α)) (h : Ascending ms) :
    Ascending (xs.foldl (fun acc m => insert m.1 m.2 acc) ms) := by
  induction xs generalizing ms with
  | nil => exact h
  | cons x xs ih => exact ih _ (ascending_insert x.1 x.2 h)

theorem ascending_ofList (ms : List (String × α)) : Ascending (ofList ms) :=
  ascending_foldl_insert ms [] List.Pairwise.nil

theorem ascending_sort (ms : List (String × α)) : Ascending (sort ms) := by
  induction ms with
  | nil => exact List.Pairwise.nil
  | cons m ms ih => exact ascending_insert m.1 m.2 ih

/-! ## Looking up -/

/-- The first member decides its own key. -/
theorem lookup_cons_ite (k a : String) (b : α) (ms : List (String × α)) :
    ((a, b) :: ms).lookup k = if k = a then some b else ms.lookup k := by
  by_cases h : k = a
  · simp [h]
  · have hb : (k == a) = false := by simpa using h
    simp [List.lookup_cons, hb, h]

/-- An insertion changes the look-up of its own key only. -/
theorem lookup_insert (key k : String) (value : α) (ms : List (String × α)) :
    (insert key value ms).lookup k = if k = key then some value else ms.lookup k := by
  induction ms with
  | nil => rw [insert, lookup_cons_ite]
  | cons m ms ih =>
    obtain ⟨a, b⟩ := m
    rw [insert]
    split
    · rw [lookup_cons_ite]
    · split
      · next heq =>
        subst heq
        rw [lookup_cons_ite, lookup_cons_ite]
        split <;> rfl
      · next hne =>
        rw [lookup_cons_ite, lookup_cons_ite, ih]
        by_cases ha : k = a
        · subst ha
          rw [if_pos rfl, if_pos rfl, if_neg (Ne.symm hne)]
        · rw [if_neg ha, if_neg ha]

theorem lookup_sort (k : String) (ms : List (String × α)) : (sort ms).lookup k = ms.lookup k := by
  induction ms with
  | nil => rfl
  | cons m ms ih =>
    obtain ⟨a, b⟩ := m
    have h : sort ((a, b) :: ms) = insert a b (sort ms) := rfl
    rw [h, lookup_insert, lookup_cons_ite, ih]

theorem sort_eq_self {ms : List (String × α)} (h : Ascending ms) : sort ms = ms := by
  induction ms with
  | nil => rfl
  | cons m ms ih =>
    obtain ⟨hm, hms⟩ := List.pairwise_cons.mp h
    have hs : sort (m :: ms) = insert m.1 m.2 (sort ms) := rfl
    rw [hs, ih hms]
    cases ms with
    | nil => rfl
    | cons n ms => rw [insert, if_pos (hm n List.mem_cons_self)]

end Wireframe.Members
