import Mathlib.Data.List.Lex
import Wireframe.Plan.Diff
import Wireframe.Proofs.KeyOrder

/-!
# Nodes of a plan by their ways

The index of a plan is gathered from a stack and then put in order. It is the list of the plan's nodes in preorder, and
looking a way up in it is following the way from the top.

* **Following a way** (`Plan.at?`): position by position from the top. A node of the preorder (`Plan.nodes`) is what its
  way leads to (`Plan.mem_nodes_iff`).
* **Order** (`Plan.ascending_nodes`): in preorder the ways ascend, compared position by position as numbers.
* **The stack** (`Component.gather_step`, `Component.gather_perm`): taking one component off and putting on what is
  inside keeps the nodes that are taken or still to be taken, so in the end each node was taken once.
* **Indexes** (`Plan.index_eq_nodes`, `Plan.lookup_index`).
-/

namespace Wireframe

/-! ## Following a way -/

namespace Component

mutual

/-- A component and those inside it, in preorder, where `way` leads to the component. -/
def nodes (way : Way) : Component → Index
  | ⟨k, p, cs⟩ => (way, ⟨k, p, cs⟩) :: nodesFrom way 0 cs

def nodesFrom (way : Way) (position : Nat) : List Component → Index
  | [] => []
  | c :: cs => nodes (way ++ [position]) c ++ nodesFrom way (position + 1) cs

end

def follow? : Way → Component → Option Component
  | [], c => some c
  | i :: w, c => c.children[i]?.bind (follow? w)

theorem nodes_eq (way : Way) (c : Component) : nodes way c = (way, c) :: nodesFrom way 0 c.children := by
  obtain ⟨k, p, cs⟩ := c
  rw [nodes]

theorem nodesFrom_eq_flatMap (way : Way) (position : Nat) (cs : List Component) :
    nodesFrom way position cs = (numbered way position cs).flatMap fun n => nodes n.1 n.2 := by
  induction cs generalizing position with
  | nil => rfl
  | cons c cs ih => rw [nodesFrom, numbered, List.flatMap_cons, ih]

/-- The nodes from a position on are those that ways from this position on lead to, when it is so for each component. -/
theorem mem_nodesFrom_of {cs : List Component}
    (h : ∀ c ∈ cs, ∀ (way v : Way) (d : Component), (v, d) ∈ nodes way c ↔ ∃ u, v = way ++ u ∧ follow? u c = some d)
    (way : Way) (position : Nat) (v : Way) (d : Component) : (v, d) ∈ nodesFrom way position cs ↔
      ∃ i u, v = way ++ (position + i) :: u ∧ cs[i]?.bind (follow? u) = some d := by
  induction cs generalizing position with
  | nil => simp [nodesFrom]
  | cons c cs ih =>
    obtain ⟨hc, hcs⟩ := List.forall_mem_cons.mp h
    rw [nodesFrom, List.mem_append, hc, ih hcs]
    constructor
    · rintro (⟨u, rfl, hu⟩ | ⟨i, u, rfl, hu⟩)
      · exact ⟨0, u, by simp, by simpa using hu⟩
      · exact ⟨i + 1, u, by rw [Nat.add_right_comm, Nat.add_assoc], by simpa using hu⟩
    · rintro ⟨i, u, rfl, hu⟩
      cases i with
      | zero => exact .inl ⟨u, by simp, by simpa using hu⟩
      | succ i => exact .inr ⟨i, u, by rw [Nat.add_right_comm, Nat.add_assoc], by simpa using hu⟩

theorem mem_nodes (c : Component) : ∀ (way v : Way) (d : Component),
    (v, d) ∈ nodes way c ↔ ∃ u, v = way ++ u ∧ follow? u c = some d := by
  induction c using Component.induct with
  | mk kind props children ih =>
    intro way v d
    rw [nodes_eq, List.mem_cons, mem_nodesFrom_of ih]
    constructor
    · rintro (h | ⟨i, u, rfl, hu⟩)
      · cases h
        exact ⟨[], by simp, rfl⟩
      · exact ⟨i :: u, by simp, by simpa [follow?] using hu⟩
    · rintro ⟨u, rfl, hu⟩
      cases u with
      | nil =>
        cases hu
        exact .inl (by simp)
      | cons i u => exact .inr ⟨i, u, by simp, by simpa [follow?] using hu⟩

/-- The nodes of components that stand side by side are those that ways to them lead to. -/
theorem mem_nodesFrom {cs : List Component} {way v : Way} {position : Nat} {d : Component} :
    (v, d) ∈ nodesFrom way position cs ↔
      ∃ i u, v = way ++ (position + i) :: u ∧ cs[i]?.bind (follow? u) = some d :=
  mem_nodesFrom_of (fun c _ => c.mem_nodes) way position v d

end Component

namespace Plan

def nodes (p : Plan) : Index := Component.nodesFrom [] 0 p.components

def at? (p : Plan) : Way → Option Component
  | [] => none
  | i :: w => p.components[i]?.bind (Component.follow? w)

/-- The nodes of a plan are the components that ways lead to. -/
theorem mem_nodes_iff {p : Plan} {w : Way} {c : Component} : (w, c) ∈ p.nodes ↔ p.at? w = some c := by
  rw [nodes, Component.mem_nodesFrom]
  constructor
  · rintro ⟨i, u, rfl, hu⟩
    simpa [at?] using hu
  · intro h
    cases w with
    | nil => cases h
    | cons i u => exact ⟨i, u, by simp, h⟩

end Plan

/-! ## Order -/

/-- Nodes in ascending order of their ways. -/
def Index.Ascending (ns : Index) : Prop := ns.Pairwise fun m n => m.1 < n.1

namespace Component

theorem ascending_nodesFrom_of {cs : List Component} (h : ∀ c ∈ cs, ∀ way, Index.Ascending (nodes way c)) (way : Way)
    (position : Nat) : Index.Ascending (nodesFrom way position cs) := by
  induction cs generalizing position with
  | nil => exact List.Pairwise.nil
  | cons c cs ih =>
    obtain ⟨hc, hcs⟩ := List.forall_mem_cons.mp h
    rw [nodesFrom]
    refine List.pairwise_append.mpr ⟨hc _, ih hcs _, ?_⟩
    rintro ⟨v, d⟩ hv ⟨w, e⟩ hw
    -- one way goes on from the position, the other from a later one
    obtain ⟨u, rfl, _⟩ := (mem_nodes c _ v d).mp hv
    obtain ⟨i, u', rfl, _⟩ := mem_nodesFrom.mp hw
    rw [List.append_assoc]
    exact List.append_left_lt (List.cons_lt_cons_iff.mpr (.inl (by omega)))

theorem ascending_nodes (c : Component) : ∀ way, Index.Ascending (nodes way c) := by
  induction c using Component.induct with
  | mk kind props children ih =>
    intro way
    rw [nodes_eq]
    refine List.pairwise_cons.mpr ⟨?_, ascending_nodesFrom_of ih way 0⟩
    rintro ⟨w, e⟩ hw
    obtain ⟨i, u, rfl, _⟩ := mem_nodesFrom.mp hw
    have hlt : way ++ [] < way ++ (0 + i) :: u := List.append_left_lt (List.nil_lt_cons (0 + i) u)
    simpa using hlt

end Component

/-- In preorder the ways of a plan ascend. -/
theorem Plan.ascending_nodes (p : Plan) : p.nodes.Ascending :=
  Component.ascending_nodesFrom_of (fun c _ => c.ascending_nodes) [] 0

/-- The order of ways is that of lists. -/
theorem Way.notAfter_iff {v w : Way} : v.notAfter w = true ↔ ¬ w < v := by
  induction v generalizing w with
  | nil => simp [notAfter]
  | cons i v ih =>
    cases w with
    | nil => simp [notAfter]
    | cons j w =>
      rw [notAfter, List.cons_lt_cons_iff]
      split
      · next h =>
        subst h
        simp [ih]
      · next h => simp only [decide_eq_true_iff]; omega

theorem Index.Ascending.ways {ns : Index} (h : ns.Ascending) : (ns.map Prod.fst).Pairwise (· < ·) :=
  List.pairwise_map.mpr h

theorem Index.Ascending.nodup_ways {ns : Index} (h : ns.Ascending) : (ns.map Prod.fst).Nodup :=
  h.ways.imp fun hlt => ne_of_lt hlt

/-- Ascending nodes are determined by their ways. -/
theorem Index.Ascending.eq_of_way_eq {ns : Index} (h : ns.Ascending) {m n : Way × Component} (hm : m ∈ ns) (hn : n ∈ ns)
    (hw : m.1 = n.1) : m = n :=
  List.inj_on_of_nodup_map h.nodup_ways hm hn hw

/-- Ascending nodes are what a list of them becomes when it is put in order. -/
theorem Index.Ascending.eq_of_perm {ms ns : Index} (hn : ns.Ascending) (h : ms.Perm ns)
    (hm : ms.Pairwise fun m n => m.1.notAfter n.1 = true) : ms = ns := by
  refine List.Perm.eq_of_pairwise (fun a b ha hb hab hba => ?_) hm (hn.imp fun hlt => ?_) h
  · rw [Way.notAfter_iff] at hab hba
    exact hn.eq_of_way_eq (h.mem_iff.mp ha) hb (le_antisymm (not_lt.mp hab) (not_lt.mp hba))
  · exact Way.notAfter_iff.mpr (not_lt_of_gt hlt)

/-! ## The stack -/

namespace Component

/-- The nodes that the components on a stack lead to. -/
def pending (stack : Index) : Index := stack.flatMap fun n => nodes n.1 n.2

/-- **One step.** The component on top and the nodes pending after it has been replaced by what is inside are the nodes
that were pending before. -/
theorem gather_step (n : Way × Component) (stack : Index) :
    (n :: pending ((numbered n.1 0 n.2.children).reverse ++ stack)).Perm (pending (n :: stack)) := by
  have hinside : (pending (numbered n.1 0 n.2.children).reverse).Perm (nodesFrom n.1 0 n.2.children) := by
    rw [nodesFrom_eq_flatMap]
    exact (List.reverse_perm _).flatMap_right _
  simp only [pending, List.flatMap_append, List.flatMap_cons]
  rw [nodes_eq, List.cons_append]
  exact (hinside.append_right _).cons n

/-- **The whole run.** Every node that was pending is taken once. -/
theorem gather_perm (stack : Index) : (gather stack).Perm (pending stack) := by
  fun_induction gather stack with
  | case1 => exact List.Perm.nil
  | case2 n stack ih => exact (ih.cons n).trans (gather_step n stack)

end Component

/-! ## Indexes -/

namespace Plan

/-- **The index of a plan is the list of its nodes in preorder.** -/
theorem index_eq_nodes (p : Plan) : p.index = p.nodes := by
  have hpending : (Component.pending (Component.numbered [] 0 p.components).reverse).Perm p.nodes := by
    rw [nodes, Component.nodesFrom_eq_flatMap]
    exact (List.reverse_perm _).flatMap_right _
  have hperm : p.index.Perm p.nodes :=
    (List.mergeSort_perm _ _).trans ((Component.gather_perm _).trans hpending)
  refine p.ascending_nodes.eq_of_perm hperm (List.pairwise_mergeSort ?_ ?_ _)
  · intro a b c hab hbc
    rw [Way.notAfter_iff, not_lt] at hab hbc ⊢
    exact le_trans hab hbc
  · intro a b
    rw [Bool.or_eq_true, Way.notAfter_iff, Way.notAfter_iff, not_lt, not_lt]
    exact le_total a.1 b.1

/-- **Looking a way up in the index is following it.** -/
theorem lookup_index (p : Plan) (w : Way) : p.index.lookup w = p.at? w := by
  rw [index_eq_nodes]
  cases hl : p.nodes.lookup w with
  | some c => exact (mem_nodes_iff.mp (Members.mem_of_lookup hl)).symm
  | none =>
    cases hw : p.at? w with
    | none => rfl
    | some c =>
      have hm := List.lookup_eq_none_iff.mp hl _ (mem_nodes_iff.mpr hw)
      simp at hm

end Plan

end Wireframe
