import Wireframe.Proofs.Lines
import Wireframe.Proofs.Scalars
import Wireframe.Proofs.Ways

/-!
# What a difference tells

The difference of two plans partitions their nodes by their ways: those of one plan only, those of both plans that
differ, and those that do not.

* **Texts of ways** (`Way.text_inj`): different ways are shown by different texts.
* **Lists by their ways** (`eq_of_ways`): lists in ascending order of ways are equal when they have the same members.
* **What is shown of a node** (`NodeInfo.Shows`): its way, its kind, and one of its texts.
* **Missing and changed nodes** (`Index.mem_without`, `Index.mem_changed`): read as looking up.
* **The report** (`Plan.diff_partitions`): the three lists of a difference, their order, their number, and what is left
  of them when the plans are exchanged.
* **Equal plans** (`Plan.eq_of_at?`, `Plan.diff_empty_iff`): kinds and texts at all ways determine the tree, by
  induction on components, so a difference without entries is one of equal plans.
-/

namespace Wireframe

/-! ## Texts of ways -/

namespace Way

theorem dot_not_mem_toDigits (n : Nat) : '.' ∉ Nat.toDigits 10 n :=
  fun h => absurd (Json.Scanner.isDigit_of_mem_toDigits h) (by decide)

/-- The positions of a way are the parts of its text. -/
theorem splitOn_text {w : Way} (hne : w ≠ []) : Text.splitOn '.' w.text.toList = w.map (Nat.toDigits 10) := by
  rw [text, String.toList_ofList]
  refine Text.splitOn_joinWith (by simpa using hne) ?_
  exact List.forall_mem_map.mpr fun n _ => dot_not_mem_toDigits n

theorem text_inj {v w : Way} (hv : v ≠ []) (hw : w ≠ []) (h : v.text = w.text) : v = w := by
  have hparts : v.map (Nat.toDigits 10) = w.map (Nat.toDigits 10) := by
    rw [← splitOn_text hv, h, splitOn_text hw]
  exact List.map_injective_iff.mpr (fun _ _ => Json.Scanner.toDigits_inj) hparts

end Way

/-! ## Lists by their ways -/

/-- Lists in ascending order of ways are equal when they have the same members. -/
theorem eq_of_ways {α : Type} (way : α → Way) {xs ys : List α} (hx : xs.Pairwise fun a b => way a < way b)
    (hy : ys.Pairwise fun a b => way a < way b) (h : ∀ a, a ∈ xs ↔ a ∈ ys) : xs = ys := by
  have hnodup {zs : List α} (hz : zs.Pairwise fun a b => way a < way b) : zs.Nodup := by
    refine hz.imp fun {a b} hlt he => ?_
    rw [he] at hlt
    exact lt_irrefl _ hlt
  have hperm := (List.perm_ext_iff_of_nodup (hnodup hx) (hnodup hy)).mpr h
  exact List.Perm.eq_of_pairwise (fun a b _ _ hab hba => absurd hab (lt_asymm hba)) hx hy hperm

/-! ## What is shown of a node -/

/-- What is shown of a component at the end of a way: its kind, and its label, or else its title. A text without
characters is none. -/
structure NodeInfo.Shows (n : NodeInfo) (way : Way) (c : Component) : Prop where
  way : n.way = way
  kind : n.kind = c.kind
  label : ∀ s, n.label = some s ↔ s ≠ "" ∧
    (c.props.get? "label" = some s ∨ (c.props.get? "label").getD "" = "" ∧ c.props.get? "title" = some s)

/-- A component is named by its label, or else by its title. -/
theorem Component.label?_eq_some_iff {c : Component} {s : String} : c.label? = some s ↔ s ≠ "" ∧
    (c.props.get? "label" = some s ∨ (c.props.get? "label").getD "" = "" ∧ c.props.get? "title" = some s) := by
  have hprop (key : String) : c.prop? key = some s ↔ s ≠ "" ∧ c.props.get? key = some s := by
    simp [prop?, Option.filter_eq_some_iff, and_comm]
  have hnone : c.prop? "label" = none ↔ (c.props.get? "label").getD "" = "" := by
    cases h : c.props.get? "label" <;> simp [prop?, h]
  rw [label?, Option.or_eq_some_iff, hprop, hprop, hnone]
  tauto

theorem NodeInfo.shows_of (way : Way) (c : Component) : (NodeInfo.of way c).Shows way c :=
  ⟨rfl, rfl, fun _ => Component.label?_eq_some_iff⟩

theorem NodeInfo.shows_iff {n : NodeInfo} {way : Way} {c : Component} : n.Shows way c ↔ n = .of way c := by
  constructor
  · rintro ⟨hway, hkind, hlabel⟩
    have hsame : n.label = c.label? := Option.ext fun s => (hlabel s).trans Component.label?_eq_some_iff.symm
    obtain ⟨w, k, l⟩ := n
    cases hway
    cases hkind
    cases hsame
    rfl
  · rintro rfl
    exact shows_of way c

theorem ChangedNode.shows_iff {n : ChangedNode} {c d : Component} :
    n.changes = c.changes d ∧ n.before.Shows n.way c ∧ n.after.Shows n.way d ↔
      n = ⟨n.way, c.changes d, .of n.way c, .of n.way d⟩ := by
  rw [NodeInfo.shows_iff, NodeInfo.shows_iff]
  obtain ⟨w, changes, before, after⟩ := n
  simp only [mk.injEq, true_and]

/-! ## Missing and changed nodes -/

namespace Component

/-- What changes is named: the kind exactly when the kinds differ, the props exactly when the props differ. -/
theorem mem_changes_iff {c d : Component} {x : Change} : x ∈ c.changes d ↔
    x = .kind ∧ c.kind ≠ d.kind ∨ x = .props ∧ c.props ≠ d.props := by
  unfold changes
  by_cases hk : c.kind = d.kind <;> by_cases hp : c.props = d.props <;> simp [hk, hp]

theorem nodup_changes (c d : Component) : (c.changes d).Nodup := by
  unfold changes
  by_cases hk : c.kind = d.kind <;> by_cases hp : c.props = d.props <;> simp [hk, hp]

theorem changes_eq_nil_iff {c d : Component} : c.changes d = [] ↔ c.kind = d.kind ∧ c.props = d.props := by
  unfold changes
  by_cases hk : c.kind = d.kind <;> by_cases hp : c.props = d.props <;> simp [hk, hp]

theorem changes_comm (c d : Component) : c.changes d = d.changes c := by
  unfold changes
  simp only [eq_comm]

end Component

namespace Index

variable {xs ys : Index}

/-- A node is missing from another index when its way is not looked up there. -/
theorem mem_without {n : NodeInfo} :
    n ∈ xs.without ys ↔ ∃ c, (n.way, c) ∈ xs ∧ ys.lookup n.way = none ∧ n = .of n.way c := by
  simp only [without, List.mem_map, List.mem_filter, Option.isNone_iff_eq_none]
  constructor
  · rintro ⟨⟨w, c⟩, ⟨hx, hy⟩, rfl⟩
    exact ⟨c, hx, hy, rfl⟩
  · rintro ⟨c, hx, hy, hn⟩
    exact ⟨(n.way, c), ⟨hx, hy⟩, hn.symm⟩

/-- A node has changed when its way is looked up in the other index too, with a component that differs. -/
theorem mem_changed {n : ChangedNode} : n ∈ xs.changed ys ↔ ∃ c d, (n.way, c) ∈ xs ∧ ys.lookup n.way = some d ∧
    c.changes d ≠ [] ∧ n = ⟨n.way, c.changes d, .of n.way c, .of n.way d⟩ := by
  rw [changed, List.mem_filterMap]
  constructor
  · rintro ⟨⟨w, c⟩, hx, hn⟩
    cases hy : ys.lookup w with
    | none => simp [hy] at hn
    | some d =>
      simp only [hy, List.isEmpty_iff, Option.ite_none_left_eq_some, Option.some.injEq] at hn
      obtain ⟨hne, rfl⟩ := hn
      exact ⟨c, d, hx, hy, hne, rfl⟩
  · rintro ⟨c, d, hx, hy, hne, hn⟩
    exact ⟨(n.way, c), hx, by simpa [hy, hne] using hn.symm⟩

/-- The ways of missing nodes are some of the ways, in their order. -/
theorem ways_without_sublist (xs ys : Index) : ((xs.without ys).map NodeInfo.way).Sublist (xs.map Prod.fst) := by
  rw [without, List.map_map]
  exact List.filter_sublist.map Prod.fst

theorem ways_changed_sublist (xs ys : Index) : ((xs.changed ys).map ChangedNode.way).Sublist (xs.map Prod.fst) := by
  induction xs with
  | nil => exact List.Sublist.slnil
  | cons n xs ih =>
    rw [changed, List.filterMap_cons]
    split
    · exact ih.cons n.1
    · next m hm =>
      have hway : m.way = n.1 := by
        have hmem : m ∈ Index.changed [n] ys := List.mem_filterMap.mpr ⟨n, List.mem_singleton.mpr rfl, hm⟩
        obtain ⟨c, d, hx, _⟩ := mem_changed.mp hmem
        rw [← List.mem_singleton.mp hx]
      rw [List.map_cons, List.map_cons, hway]
      exact ih.cons_cons n.1

end Index

/-! ## The report -/

namespace Component

theorem length_nodesFrom {cs : List Component} (h : ∀ c ∈ cs, ∀ way, (nodes way c).length = c.count) (way : Way)
    (position : Nat) : (nodesFrom way position cs).length = countAll cs := by
  induction cs generalizing position with
  | nil => rfl
  | cons c cs ih =>
    obtain ⟨hc, hcs⟩ := List.forall_mem_cons.mp h
    rw [nodesFrom, List.length_append, hc, ih hcs, countAll]

theorem length_nodes (c : Component) : ∀ way, (nodes way c).length = c.count := by
  induction c using Component.induct with
  | mk kind props children ih =>
    intro way
    rw [nodes_eq, List.length_cons, length_nodesFrom ih, count, Nat.add_comm]

end Component

namespace Plan

variable {p q : Plan}

theorem length_nodes (p : Plan) : p.nodes.length = p.count :=
  Component.length_nodesFrom (fun c _ => c.length_nodes) [] 0

/-- The ways that exist in two plans, in the order of the first. -/
def sharedWays (p q : Plan) : List Way := (p.nodes.filter fun n => (q.at? n.1).isSome).map Prod.fst

theorem mem_sharedWays {w : Way} : w ∈ p.sharedWays q ↔ (p.at? w).isSome ∧ (q.at? w).isSome := by
  simp only [sharedWays, List.mem_map, List.mem_filter, Prod.exists, mem_nodes_iff, Option.isSome_iff_exists]
  constructor
  · rintro ⟨v, c, ⟨hp, hq⟩, rfl⟩
    exact ⟨⟨c, hp⟩, hq⟩
  · rintro ⟨⟨c, hp⟩, hq⟩
    exact ⟨w, c, ⟨hp, hq⟩, rfl⟩

theorem ascending_sharedWays (p q : Plan) : (p.sharedWays q).Pairwise (· < ·) :=
  List.pairwise_map.mpr (p.ascending_nodes.filter _)

theorem sharedWays_comm (p q : Plan) : p.sharedWays q = q.sharedWays p :=
  eq_of_ways id (ascending_sharedWays p q) (ascending_sharedWays q p) fun w => by
    rw [mem_sharedWays, mem_sharedWays, and_comm]

/-- The nodes of a plan are those that it shares with another and those that are missing there. -/
theorem count_eq (p q : Plan) : p.count = (p.sharedWays q).length + (p.index.without q.index).length := by
  have hmissing : p.index.without q.index = (p.nodes.filter fun n => !(q.at? n.1).isSome).map fun n => .of n.1 n.2 := by
    simp only [Index.without, index_eq_nodes p, lookup_index, Option.not_isSome]
  rw [hmissing, sharedWays, List.length_map, List.length_map, ← length_nodes,
    List.length_eq_length_filter_add fun n => (q.at? n.1).isSome]

end Plan

namespace ChangedNode

def swap (n : ChangedNode) : ChangedNode := { n with before := n.after, after := n.before }

end ChangedNode

namespace Diff

def swap (d : Diff) : Diff :=
  { d with
    beforeHash := d.afterHash
    afterHash := d.beforeHash
    added := d.removed
    removed := d.added
    changed := d.changed.map ChangedNode.swap }

/-- A difference tells exactly how one plan becomes another. -/
structure Tells (p q : Plan) (d : Diff) : Prop where
  /-- What is added stands in the second plan at a way that the first one does not have. -/
  added : ∀ n, n ∈ d.added ↔ ∃ c, q.at? n.way = some c ∧ p.at? n.way = none ∧ n.Shows n.way c
  /-- What is removed stands in the first plan at a way that the second one does not have. -/
  removed : ∀ n, n ∈ d.removed ↔ ∃ c, p.at? n.way = some c ∧ q.at? n.way = none ∧ n.Shows n.way c
  /-- What is changed stands in both plans at the same way and differs in kind or props. -/
  changed : ∀ n, n ∈ d.changed ↔ ∃ c e, p.at? n.way = some c ∧ q.at? n.way = some e ∧
    (c.kind ≠ e.kind ∨ c.props ≠ e.props) ∧
    n.changes = c.changes e ∧ n.before.Shows n.way c ∧ n.after.Shows n.way e
  /-- What differs is named, once. -/
  named : ∀ n ∈ d.changed, ∀ c e, p.at? n.way = some c → q.at? n.way = some e →
    (Change.kind ∈ n.changes ↔ c.kind ≠ e.kind) ∧ (Change.props ∈ n.changes ↔ c.props ≠ e.props) ∧ n.changes.Nodup
  /-- Nodes are listed in the preorder of the plan that they stand in. -/
  addedOrder : (d.added.map NodeInfo.way).Sublist (q.nodes.map Prod.fst)
  removedOrder : (d.removed.map NodeInfo.way).Sublist (p.nodes.map Prod.fst)
  changedOrder : (d.changed.map ChangedNode.way).Sublist (p.nodes.map Prod.fst)
  /-- No two nodes of a list are shown with the same path. -/
  addedTexts : (d.added.map fun n => n.way.text).Nodup
  removedTexts : (d.removed.map fun n => n.way.text).Nodup
  changedTexts : (d.changed.map fun n => n.way.text).Nodup
  /-- The numbers of nodes add up. -/
  balance : q.count + d.removed.length = p.count + d.added.length

end Diff

namespace Plan

variable {p q : Plan}

theorem mem_missing {n : NodeInfo} : n ∈ q.index.without p.index ↔
    ∃ c, q.at? n.way = some c ∧ p.at? n.way = none ∧ n.Shows n.way c := by
  simp only [Index.mem_without, index_eq_nodes q, mem_nodes_iff, lookup_index, NodeInfo.shows_iff]

theorem mem_changedNodes {n : ChangedNode} : n ∈ p.index.changed q.index ↔ ∃ c d, p.at? n.way = some c ∧
    q.at? n.way = some d ∧ c.changes d ≠ [] ∧ n = ⟨n.way, c.changes d, .of n.way c, .of n.way d⟩ := by
  simp only [Index.mem_changed, index_eq_nodes p, mem_nodes_iff, lookup_index]

theorem ways_missing_sublist (p q : Plan) :
    ((p.index.without q.index).map NodeInfo.way).Sublist (p.nodes.map Prod.fst) := by
  rw [← index_eq_nodes]
  exact Index.ways_without_sublist _ _

theorem ways_changedNodes_sublist (p q : Plan) :
    ((p.index.changed q.index).map ChangedNode.way).Sublist (p.nodes.map Prod.fst) := by
  rw [← index_eq_nodes]
  exact Index.ways_changed_sublist _ _

/-- Ways that are listed in the order of a plan have different texts. -/
theorem nodup_texts {ws : List Way} (h : ws.Sublist (p.nodes.map Prod.fst)) : (ws.map Way.text).Nodup := by
  have hne : ∀ w ∈ ws, w ≠ [] := by
    intro w hw hnil
    obtain ⟨⟨v, c⟩, hm, rfl⟩ := List.mem_map.mp (h.subset hw)
    have hat := mem_nodes_iff.mp hm
    rw [show v = [] from hnil] at hat
    cases hat
  exact (p.ascending_nodes.nodup_ways.sublist h).map_on fun v hv w hw he => Way.text_inj (hne v hv) (hne w hw) he

/-- The changed nodes of two plans that are exchanged are seen from the other one. -/
theorem changed_comm (p q : Plan) :
    q.index.changed p.index = (p.index.changed q.index).map ChangedNode.swap := by
  have hways (p q : Plan) : ((p.index.changed q.index).map ChangedNode.way).Pairwise (· < ·) :=
    p.ascending_nodes.ways.sublist (ways_changedNodes_sublist p q)
  refine eq_of_ways ChangedNode.way (List.pairwise_map.mp (hways q p)) ?_ fun n => ?_
  · exact List.pairwise_map.mpr (List.pairwise_map.mp (hways p q))
  · rw [mem_changedNodes, List.mem_map]
    constructor
    · rintro ⟨d, c, hq, hp, hne, hn⟩
      rw [Component.changes_comm] at hne hn
      exact ⟨⟨n.way, c.changes d, .of n.way c, .of n.way d⟩, mem_changedNodes.mpr ⟨c, d, hp, hq, hne, rfl⟩, hn.symm⟩
    · rintro ⟨m, hm, rfl⟩
      obtain ⟨c, d, hp, hq, hne, hm⟩ := mem_changedNodes.mp hm
      rw [Component.changes_comm] at hne hm
      exact ⟨d, c, hq, hp, hne, by rw [hm]; rfl⟩

theorem tells_diff (p q : Plan) : Diff.Tells p q (p.diff q) where
  added _ := mem_missing
  removed _ := mem_missing
  changed n := by
    have hne (c d : Component) : c.changes d ≠ [] ↔ c.kind ≠ d.kind ∨ c.props ≠ d.props := by
      rw [ne_eq, Component.changes_eq_nil_iff, not_and_or]
    simp only [← hne, ChangedNode.shows_iff]
    exact mem_changedNodes
  named n hn c d hc hd := by
    obtain ⟨c', d', hc', hd', _, hn⟩ := mem_changedNodes.mp hn
    rw [hc] at hc'
    rw [hd] at hd'
    cases hc'
    cases hd'
    rw [hn, Component.mem_changes_iff, Component.mem_changes_iff]
    exact ⟨by simp, by simp, Component.nodup_changes c d⟩
  addedOrder := ways_missing_sublist q p
  removedOrder := ways_missing_sublist p q
  changedOrder := ways_changedNodes_sublist p q
  addedTexts := by
    have h := nodup_texts (ways_missing_sublist q p)
    rwa [List.map_map] at h
  removedTexts := by
    have h := nodup_texts (ways_missing_sublist p q)
    rwa [List.map_map] at h
  changedTexts := by
    have h := nodup_texts (ways_changedNodes_sublist p q)
    rwa [List.map_map] at h
  balance := by
    have hp := count_eq p q
    have hq := count_eq q p
    rw [sharedWays_comm] at hq
    show q.count + (p.index.without q.index).length = p.count + (q.index.without p.index).length
    omega

/-- **A difference partitions the nodes of two plans.** What is added, removed and changed is told exactly, in the
preorder of the plans, in which ways ascend position by position as numbers, and exchanging the plans gives the same
difference seen from the other side. -/
theorem diff_partitions (p q : Plan) :
    Diff.Tells p q (p.diff q) ∧ (p.nodes.map Prod.fst).Pairwise (· < ·) ∧ (q.nodes.map Prod.fst).Pairwise (· < ·) ∧
    q.diff p = (p.diff q).swap := by
  refine ⟨tells_diff p q, p.ascending_nodes.ways, q.ascending_nodes.ways, ?_⟩
  have hlayout : (q.layout ≠ p.layout) = (p.layout ≠ q.layout) := propext ne_comm
  simp only [diff, Diff.swap, changed_comm p q, hlayout]

/-- The third item inside a component comes before the eleventh. -/
example : ([0, 2] : Way) < [0, 10] := by decide

end Plan

/-! ## Equal plans -/

structure Diff.IsEmpty (d : Diff) : Prop where
  added : d.added = []
  removed : d.removed = []
  changed : d.changed = []
  layout : d.layoutChanged = false

namespace Component

/-- What a component is by itself: its kind and its texts. -/
def own (c : Component) : Kind × Props := (c.kind, c.props)

/-- Components side by side are equal when the same positions hold components that the ways inside cannot tell apart,
and such components are equal. -/
theorem eq_of_follow?_all {cs ds : List Component}
    (hinside : ∀ c ∈ cs, ∀ d, (∀ w, (follow? w c).map own = (follow? w d).map own) → c = d)
    (h : ∀ (i : Nat) (w : Way), (cs[i]?.bind (follow? w)).map own = (ds[i]?.bind (follow? w)).map own) : cs = ds := by
  apply List.ext_getElem?
  intro i
  cases hc : cs[i]? with
  | none =>
    have hnil := h i []
    rw [hc] at hnil
    cases hd : ds[i]? with
    | none => rfl
    | some d => simp [hd, follow?] at hnil
  | some c =>
    cases hd : ds[i]? with
    | none =>
      have hnil := h i []
      simp [hc, hd, follow?] at hnil
    | some d =>
      have hw (w : Way) : (follow? w c).map own = (follow? w d).map own := by
        simpa [hc, hd] using h i w
      rw [hinside c (List.mem_of_getElem? hc) d hw]

/-- Components in which the same ways lead to the same kinds and texts are equal. -/
theorem eq_of_follow? (c : Component) : ∀ d, (∀ w, (follow? w c).map own = (follow? w d).map own) → c = d := by
  induction c using Component.induct with
  | mk kind props children ih =>
    rintro ⟨kind', props', children'⟩ h
    have hown : own ⟨kind, props, children⟩ = own ⟨kind', props', children'⟩ := Option.some.inj (h [])
    have hchildren : children = children' := eq_of_follow?_all ih fun i w => h (i :: w)
    simp only [own, Prod.mk.injEq] at hown
    rw [hown.1, hown.2, hchildren]

end Component

namespace Plan

variable {p q : Plan}

/-- **Kinds and texts by ways determine a plan.** No two trees of components have the same kinds and texts at the same
ways, however their components are moved or put inside others. -/
theorem eq_of_at? (hlayout : p.layout = q.layout)
    (h : ∀ w, (p.at? w).map Component.own = (q.at? w).map Component.own) : p = q := by
  have hcomponents : p.components = q.components :=
    Component.eq_of_follow?_all (fun c _ => c.eq_of_follow?) fun i w => h (i :: w)
  obtain ⟨layout, components⟩ := p
  obtain ⟨layout', components'⟩ := q
  rw [show layout = layout' from hlayout, show components = components' from hcomponents]

/-- Without missing and changed nodes, the same ways lead to the same kinds and texts. -/
theorem map_own_at? (hadded : (p.diff q).added = []) (hremoved : (p.diff q).removed = [])
    (hchanged : (p.diff q).changed = []) (w : Way) : (p.at? w).map Component.own = (q.at? w).map Component.own := by
  have tells := tells_diff p q
  cases hp : p.at? w with
  | none =>
    cases hq : q.at? w with
    | none => rfl
    | some d =>
      have hmem := (tells.added (.of w d)).mpr ⟨d, hq, hp, NodeInfo.shows_of w d⟩
      rw [hadded] at hmem
      cases hmem
  | some c =>
    cases hq : q.at? w with
    | none =>
      have hmem := (tells.removed (.of w c)).mpr ⟨c, hp, hq, NodeInfo.shows_of w c⟩
      rw [hremoved] at hmem
      cases hmem
    | some d =>
      by_cases hdiffer : c.kind ≠ d.kind ∨ c.props ≠ d.props
      · have hmem := (tells.changed ⟨w, c.changes d, .of w c, .of w d⟩).mpr
          ⟨c, d, hp, hq, hdiffer, rfl, NodeInfo.shows_of w c, NodeInfo.shows_of w d⟩
        rw [hchanged] at hmem
        cases hmem
      · rw [not_or, not_not, not_not] at hdiffer
        simp only [Option.map_some, Component.own, hdiffer]

theorem diff_self (p : Plan) : (p.diff p).added = [] ∧ (p.diff p).removed = [] ∧ (p.diff p).changed = [] := by
  have tells := tells_diff p p
  have hmissing (n : NodeInfo) : ¬ ∃ c, p.at? n.way = some c ∧ p.at? n.way = none ∧ n.Shows n.way c := by
    rintro ⟨c, hc, hnone, _⟩
    rw [hc] at hnone
    cases hnone
  refine ⟨?_, ?_, ?_⟩
  · exact List.eq_nil_iff_forall_not_mem.mpr fun n hn => hmissing n ((tells.added n).mp hn)
  · exact List.eq_nil_iff_forall_not_mem.mpr fun n hn => hmissing n ((tells.removed n).mp hn)
  · refine List.eq_nil_iff_forall_not_mem.mpr fun n hn => ?_
    obtain ⟨c, d, hc, hd, hne, _⟩ := (tells.changed n).mp hn
    rw [hc] at hd
    cases hd
    simp at hne

/-- **A difference without entries is one of equal plans**, and its digests are equal too. -/
theorem diff_empty_iff (p q : Plan) : ((p.diff q).IsEmpty ↔ p = q) ∧
    ((p.diff q).IsEmpty → (p.diff q).beforeHash = (p.diff q).afterHash) := by
  have heq (hempty : (p.diff q).IsEmpty) : p = q := by
    obtain ⟨hadded, hremoved, hchanged, hlayout⟩ := hempty
    exact eq_of_at? (by simpa [diff] using hlayout) (map_own_at? hadded hremoved hchanged)
  refine ⟨⟨heq, ?_⟩, fun hempty => ?_⟩
  · rintro rfl
    obtain ⟨hadded, hremoved, hchanged⟩ := diff_self p
    exact ⟨hadded, hremoved, hchanged, by simp [diff]⟩
  · rw [heq hempty]
    rfl

/-- A button that stands after a card and one that stands inside it make different plans. -/
theorem diff_empty_nested :
    let inside : Plan := ⟨"default", [.card "Sign in" [.button "Send"]]⟩
    let after : Plan := ⟨"default", [.card "Sign in", .button "Send"]⟩
    ¬ (inside.diff after).IsEmpty ∧ (inside.diff inside).IsEmpty ∧
      (inside.diff inside).beforeHash = (inside.diff inside).afterHash := by
  intro inside after
  have hne : inside ≠ after := by simp [inside, after]
  have hself := (diff_empty_iff inside inside).1.mpr rfl
  exact ⟨fun h => hne ((diff_empty_iff inside after).1.mp h), hself, (diff_empty_iff inside inside).2 hself⟩

end Plan

end Wireframe
