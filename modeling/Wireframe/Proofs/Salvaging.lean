import Mathlib.Logic.Relation
import Wireframe.Proofs.Grammar

/-!
# What is salvaged from an untrusted value

A node of an untrusted value is kept when it and all that it stands in name kinds and it is not too deep. The plan that
a value is salvaged to consists of the kept nodes, one after the other, and nothing else in the value has any effect.

* **Outlines** (`Plan.rows`, `Plan.eq_of_rows`): the components of a plan in preorder, each with its depth, determine
  the plan.
* **Kept nodes** (`Json.Node.Kept`, `Component.isSome_salvageAt_iff`): a value becomes a component exactly when it is
  kept.
* **Rows of kept nodes** (`Json.Node.rows`, `Component.rows_salvageAt`): by induction on the levels that are read.
* **Edits** (`Json.Edit`): nodes that are not kept are inserted, deleted and rewritten, and members that are not read
  are changed. One edit leaves the components of a list (`Component.filterMap_salvageAt_of_edit`), by induction on the
  place where it is made.
* **The plan** (`Plan.salvage_keeps`).
-/

namespace Wireframe

/-! ## Outlines -/

/-- A component in an outline: its depth, its kind and its texts. -/
structure Row where
  depth : Nat
  kind : Kind
  texts : List (String × String)
deriving DecidableEq

namespace Component

mutual

/-- A component at a depth and those inside it, in preorder. -/
def rows (depth : Nat) : Component → List Row
  | ⟨k, p, cs⟩ => ⟨depth, k, p.entries⟩ :: rowsAll (depth + 1) cs

def rowsAll (depth : Nat) : List Component → List Row
  | [] => []
  | c :: cs => rows depth c ++ rowsAll depth cs

end

/-- Rows that begin above a depth, if there are any. -/
def Above (depth : Nat) (rs : List Row) : Prop := ∀ r ∈ rs.head?, r.depth < depth

/-- Rows from a component on begin at its depth. -/
theorem not_above_rows (depth : Nat) (c : Component) (s : List Row) : ¬ Above depth (rows depth c ++ s) := by
  intro h
  obtain ⟨k, p, cs⟩ := c
  have hlt := h ⟨depth, k, p.entries⟩ (by simp [rows])
  exact Nat.lt_irrefl _ hlt

/-- Components at a depth, and what comes above it, begin above the next depth. -/
theorem above_succ_rowsAll {depth : Nat} {s : List Row} (hs : Above depth s) (cs : List Component) :
    Above (depth + 1) (rowsAll depth cs ++ s) := by
  intro r hr
  cases cs with
  | nil => exact Nat.lt_succ_of_lt (hs r hr)
  | cons c cs =>
    obtain ⟨k, p, ds⟩ := c
    simp only [rowsAll, rows, List.cons_append, List.head?_cons, Option.mem_some_iff] at hr
    subst hr
    exact Nat.lt_succ_self depth

/-- Components side by side are read off an outline, when those of the first list are. -/
theorem rowsAll_append_inj {cs ds : List Component}
    (hinside : ∀ c ∈ cs, ∀ (d : Component) (depth : Nat) (s t : List Row), Above (depth + 1) s → Above (depth + 1) t →
      rows depth c ++ s = rows depth d ++ t → c = d ∧ s = t)
    {depth : Nat} {s t : List Row} (hs : Above depth s) (ht : Above depth t)
    (h : rowsAll depth cs ++ s = rowsAll depth ds ++ t) : cs = ds ∧ s = t := by
  induction cs generalizing ds with
  | nil =>
    cases ds with
    | nil => exact ⟨rfl, h⟩
    | cons d ds =>
      rw [rowsAll, rowsAll, List.nil_append, List.append_assoc] at h
      exact absurd (h ▸ hs) (not_above_rows depth d _)
  | cons c cs ih =>
    obtain ⟨hc, hcs⟩ := List.forall_mem_cons.mp hinside
    cases ds with
    | nil =>
      rw [rowsAll, rowsAll, List.nil_append, List.append_assoc] at h
      exact absurd (h ▸ ht) (not_above_rows depth c _)
    | cons d ds =>
      rw [rowsAll, rowsAll, List.append_assoc, List.append_assoc] at h
      obtain ⟨rfl, hrest⟩ := hc d depth _ _ (above_succ_rowsAll hs cs) (above_succ_rowsAll ht ds) h
      obtain ⟨rfl, hst⟩ := ih hcs hrest
      exact ⟨rfl, hst⟩

/-- A component is read off the beginning of an outline: what stands inside it ends where a row is not deeper. -/
theorem rows_append_inj (c : Component) : ∀ (d : Component) (depth : Nat) (s t : List Row), Above (depth + 1) s →
    Above (depth + 1) t → rows depth c ++ s = rows depth d ++ t → c = d ∧ s = t := by
  induction c using Component.induct with
  | mk k p cs ih =>
    rintro ⟨k', p', ds⟩ depth s t hs ht h
    simp only [rows, List.cons_append, List.cons.injEq, Row.mk.injEq, true_and] at h
    obtain ⟨⟨rfl, hp⟩, hrest⟩ := h
    obtain ⟨rfl, hst⟩ := rowsAll_append_inj ih hs ht hrest
    rw [Props.ext hp]
    exact ⟨rfl, hst⟩

end Component

namespace Plan

/-- The components of a plan in preorder. -/
def rows (p : Plan) : List Row := Component.rowsAll 0 p.components

/-- **Layout and outline determine a plan.** -/
theorem eq_of_rows {p q : Plan} (hlayout : p.layout = q.layout) (h : p.rows = q.rows) : p = q := by
  have hnil : Component.Above 0 [] := fun _ hr => by cases hr
  have happend : Component.rowsAll 0 p.components ++ [] = Component.rowsAll 0 q.components ++ [] := by
    rw [List.append_nil, List.append_nil]
    exact h
  have hcomponents := (Component.rowsAll_append_inj (fun c _ => c.rows_append_inj) hnil hnil happend).1
  obtain ⟨layout, cs⟩ := p
  obtain ⟨layout', ds⟩ := q
  rw [show layout = layout' from hlayout, show cs = ds from hcomponents]

end Plan

/-! ## Kept nodes -/

namespace Json

/-- The kind that a value names as its type. -/
def kind? (v : Json) : Option Kind :=
  match v.get? "type" with
  | some (.str s) => Kind.ofName? s
  | _ => none

theorem kind?_eq_some_iff {v : Json} {k : Kind} : v.kind? = some k ↔ v.get? "type" = some (.str k.name) := by
  unfold kind?
  split
  · next s hs =>
    rw [hs, Option.some.injEq, str.injEq]
    exact ⟨fun h => (Kind.name_of_ofName? h).symm, fun h => h ▸ Kind.ofName?_name k⟩
  · next hno => exact ⟨fun h => (nomatch h), fun h => absurd h (hno _)⟩

theorem bind_ofName? (v : Json) : ((v.get? "type").bind text?).bind Kind.ofName? = v.kind? := by
  unfold kind?
  cases v.get? "type" with
  | none => rfl
  | some w => cases w <;> rfl

/-- The first 100 characters of the text that the props of a value have for the caption of a kind, if they have one. -/
def captionTexts (v : Json) (k : Kind) : List (String × String) :=
  match (v.get? "props").bind (·.get? k.caption) with
  | some (.str s) => [(k.caption, String.ofList (s.toList.take 100))]
  | _ => []

end Json

/-- A node of a value: what it is, and what it stands in, the nearest first. -/
structure Json.Node where
  value : Json
  around : List Json

namespace Json

/-- A value and the nodes inside it, in preorder, where it stands in `around`. -/
def reached (around : List Json) (v : Json) : List Node :=
  ⟨v, around⟩ :: (v.inside "children").attach.flatMap fun x => reached (v :: around) x.1
termination_by sizeOf v
decreasing_by
  obtain ⟨xs, hxs, hx⟩ := mem_inside x.2
  exact sizeOf_lt_of_get? hxs hx

theorem reached_eq (around : List Json) (v : Json) :
    reached around v = ⟨v, around⟩ :: (v.inside "children").flatMap (reached (v :: around)) := by
  rw [reached, List.flatMap_subtype fun _ _ => rfl, List.unattach_attach]

def nodes (v : Json) : List Node := (v.inside "components").flatMap (reached [])

namespace Node

/-- A node is kept when it is at most at depth 5, and it and all that it stands in name kinds. -/
def Kept (n : Node) : Prop :=
  n.around.length ≤ 5 ∧ ∀ x ∈ n.value :: n.around, ∃ k : Kind, x.get? "type" = some (.str k.name)

theorem kept_iff {n : Node} : n.Kept ↔ n.around.length ≤ 5 ∧ ∀ x ∈ n.value :: n.around, x.kind?.isSome := by
  simp only [Kept, Option.isSome_iff_exists, kind?_eq_some_iff]

instance : DecidablePred Kept := fun _ => decidable_of_iff _ kept_iff.symm

/-- A node that stands in others is kept only if these are. -/
theorem Kept.of_suffix {m n : Node} (h : n.Kept) (hs : m.value :: m.around <:+ n.value :: n.around) : m.Kept := by
  refine ⟨?_, fun x hx => h.2 x (hs.subset hx)⟩
  have hlen := hs.length_le
  have hdepth := h.1
  simp only [List.length_cons] at hlen
  omega

end Node

/-- The nodes inside a value stand in it, and in all that it stands in. -/
theorem suffix_of_mem_reached (v : Json) : ∀ {around : List Json} {n : Node}, n ∈ reached around v →
    v :: around <:+ n.value :: n.around := by
  induction v using induct_inside with
  | step v ih =>
    intro around n hn
    rw [reached_eq, List.mem_cons, List.mem_flatMap] at hn
    rcases hn with rfl | ⟨x, hx, hn⟩
    · exact List.suffix_rfl
    · obtain ⟨xs, hxs, hx⟩ := mem_inside hx
      exact (List.suffix_cons x (v :: around)).trans (ih _ xs x hxs hx hn)

/-- Nothing inside a node that is not kept is kept. -/
theorem filter_reached_of_not_kept {v : Json} {around : List Json} (h : ¬ Node.Kept ⟨v, around⟩) :
    (reached around v).filter (fun n => n.Kept) = [] := by
  rw [List.filter_eq_nil_iff]
  intro n hn hkept
  exact h ((of_decide_eq_true hkept).of_suffix (suffix_of_mem_reached v hn))

/-- The nodes of a value that are kept, in preorder. -/
def keptNodes (v : Json) : List Node := v.nodes.filter fun n => n.Kept

/-- The kept nodes right inside a node. -/
def Node.keptInside (n : Node) : List Node :=
  ((n.value.inside "children").map fun x => ⟨x, n.value :: n.around⟩).filter fun m => m.Kept

/-- The rows of a kept node: its own, and that of a button if it is a card or a modal in which no node is kept. -/
def Node.rows (n : Node) : List Row :=
  match n.value.kind? with
  | none => []
  | some k =>
    ⟨n.around.length, k, n.value.captionTexts k⟩ ::
      if (k = .card ∨ k = .modal) ∧ n.keptInside = [] then [⟨n.around.length + 1, .button, [("label", "Action")]⟩]
      else []

end Json

/-! ## Rows of kept nodes -/

namespace Component

/-- The texts of a salvaged component are those of one caption. -/
theorem entries_salvageProps (k : Kind) (v : Json) : (salvageProps k (v.get? "props")).entries = v.captionTexts k := by
  unfold salvageProps Json.captionTexts
  cases (v.get? "props").bind (·.get? k.caption) with
  | none => rfl
  | some w => cases w <;> rfl

theorem salvageAt_succ (levels : Nat) (v : Json) : salvageAt (levels + 1) v = v.kind?.map fun k =>
    ⟨k, salvageProps k (v.get? "props"), orFallback k ((v.inside "children").filterMap (salvageAt levels))⟩ := by
  rw [salvageAt, Json.bind_ofName?, Json.getD_items?]
  cases v.kind? <;> rfl

/-- Inside `around`, where all values name kinds, there are `levels` levels left above the guard. -/
structure Reading (levels : Nat) (around : List Json) : Prop where
  levels : around.length + levels = 6
  named : ∀ x ∈ around, x.kind?.isSome

variable {levels : Nat} {around : List Json} {v : Json}

theorem isSome_salvageAt_iff (h : Reading levels around) :
    (salvageAt levels v).isSome ↔ Json.Node.Kept ⟨v, around⟩ := by
  have hkept : Json.Node.Kept ⟨v, around⟩ ↔ around.length ≤ 5 ∧ v.kind?.isSome := by
    rw [Json.Node.kept_iff, List.forall_mem_cons, and_iff_left h.named]
  have hlevels := h.levels
  rw [hkept]
  cases levels with
  | zero =>
    have hdeep : ¬ around.length ≤ 5 := by omega
    simp [salvageAt, hdeep]
  | succ levels =>
    rw [salvageAt_succ, Option.isSome_map]
    exact ⟨fun hkind => ⟨by omega, hkind⟩, And.right⟩

/-- Inside a value that names a kind one level less is read. -/
theorem Reading.inside (h : Reading (levels + 1) around) (hkind : v.kind?.isSome) : Reading levels (v :: around) where
  levels := by
    rw [List.length_cons, ← h.levels]
    omega
  named := List.forall_mem_cons.mpr ⟨hkind, h.named⟩

theorem keptInside_eq_nil_iff (h : Reading levels (v :: around)) :
    Json.Node.keptInside ⟨v, around⟩ = [] ↔ (v.inside "children").filterMap (salvageAt levels) = [] := by
  simp only [Json.Node.keptInside, List.filter_eq_nil_iff, List.forall_mem_map, List.filterMap_eq_nil_iff,
    decide_eq_true_iff, ← isSome_salvageAt_iff h, Option.not_isSome_iff_eq_none]

/-- A container that would be left empty has one row more. -/
theorem rowsAll_orFallback (depth : Nat) (k : Kind) (cs : List Component) : rowsAll depth (orFallback k cs) =
    (if (k = .card ∨ k = .modal) ∧ cs = [] then [⟨depth, .button, [("label", "Action")]⟩] else []) ++
      rowsAll depth cs := by
  cases cs with
  | nil => cases k <;> rfl
  | cons c cs => simp [orFallback]

/-- The rows of the components of a list are those of each value in it. -/
theorem rowsAll_filterMap (depth : Nat) (f : Json → Option Component) (xs : List Json) :
    rowsAll depth (xs.filterMap f) = xs.flatMap fun x => rowsAll depth (f x).toList := by
  induction xs with
  | nil => rfl
  | cons x xs ih =>
    rw [List.flatMap_cons, ← ih, List.filterMap_cons]
    cases f x <;> simp [rowsAll]

theorem salvageAt_of_not_kept (h : Reading levels around) (hnot : ¬ Json.Node.Kept ⟨v, around⟩) :
    salvageAt levels v = none := by
  rwa [← isSome_salvageAt_iff h, Option.not_isSome_iff_eq_none] at hnot

theorem rows_of_not_kept (h : Reading levels around) (hnot : ¬ Json.Node.Kept ⟨v, around⟩) :
    rowsAll around.length (salvageAt levels v).toList =
      ((Json.reached around v).filter fun n => n.Kept).flatMap Json.Node.rows := by
  rw [salvageAt_of_not_kept h hnot, Json.filter_reached_of_not_kept hnot]
  rfl

/-- **A salvaged value has the rows of the kept nodes in it.** -/
theorem rows_salvageAt (h : Reading levels around) : rowsAll around.length (salvageAt levels v).toList =
    ((Json.reached around v).filter fun n => n.Kept).flatMap Json.Node.rows := by
  induction levels generalizing around v with
  | zero =>
    have hdeep : around.length = 6 := h.levels
    exact rows_of_not_kept h fun hkept => absurd hkept.1 (by simp [hdeep])
  | succ levels ih =>
    by_cases hkept : Json.Node.Kept ⟨v, around⟩
    · have hsome : v.kind?.isSome := (Json.Node.kept_iff.mp hkept).2 v List.mem_cons_self
      obtain ⟨k, hkind⟩ := Option.isSome_iff_exists.mp hsome
      have hinside := h.inside hsome
      -- the kept nodes inside come after the row of the value and that of the button
      have hrest : rowsAll (around.length + 1) ((v.inside "children").filterMap (salvageAt levels)) =
          (((v.inside "children").flatMap (Json.reached (v :: around))).filter fun n => n.Kept).flatMap
            Json.Node.rows := by
        rw [rowsAll_filterMap, List.filter_flatMap, List.flatMap_assoc]
        simp only [← ih hinside, List.length_cons]
      rw [Json.reached_eq, List.filter_cons_of_pos (by simpa using hkept), List.flatMap_cons, ← hrest, salvageAt_succ]
      simp only [Option.map_some, Option.toList_some, rowsAll, rows, List.append_nil, rowsAll_orFallback,
        entries_salvageProps, Json.Node.rows, hkind, keptInside_eq_nil_iff hinside, List.cons_append]
    · exact rows_of_not_kept h hkept

end Component

/-! ## Edits -/

namespace Json

/-- Two values have the same type, and the same text for the caption of the kind that it names. -/
structure SameOwn (v w : Json) : Prop where
  type : v.get? "type" = w.get? "type"
  caption : ∀ k, v.kind? = some k →
    (v.get? "props").bind (·.get? k.caption) = (w.get? "props").bind (·.get? k.caption)

theorem SameOwn.kind? {v w : Json} (h : v.SameOwn w) : v.kind? = w.kind? := by
  unfold Json.kind?
  rw [h.type]

/-- One edit in a list that stands in `around`. -/
inductive ListEdit : List Json → List Json → List Json → Prop
  /-- A node that is not kept is inserted. -/
  | insert {around : List Json} (before after : List Json) {x : Json} : ¬ Node.Kept ⟨x, around⟩ →
      ListEdit around (before ++ after) (before ++ x :: after)
  /-- A node that is not kept is deleted. -/
  | delete {around : List Json} (before after : List Json) {x : Json} : ¬ Node.Kept ⟨x, around⟩ →
      ListEdit around (before ++ x :: after) (before ++ after)
  /-- A node that is not kept is rewritten into another one. -/
  | rewrite {around : List Json} (before after : List Json) {x y : Json} : ¬ Node.Kept ⟨x, around⟩ →
      ¬ Node.Kept ⟨y, around⟩ → ListEdit around (before ++ x :: after) (before ++ y :: after)
  /-- Members of a node that are not read are changed. -/
  | unread {around : List Json} (before after : List Json) {x y : Json} : x.SameOwn y →
      x.inside "children" = y.inside "children" → ListEdit around (before ++ x :: after) (before ++ y :: after)
  /-- One edit is made in the list inside a node. -/
  | inside {around : List Json} (before after : List Json) {x y : Json} : x.SameOwn y →
      ListEdit (x :: around) (x.inside "children") (y.inside "children") →
      ListEdit around (before ++ x :: after) (before ++ y :: after)

/-- One edit in an untrusted value that is to be a plan. -/
inductive Edit (v w : Json) : Prop
  /-- Members that are not read are changed. -/
  | unread : v.get? "layout" = w.get? "layout" → v.inside "components" = w.inside "components" → Edit v w
  /-- One edit is made in the list of the components. -/
  | nodes : v.get? "layout" = w.get? "layout" → ListEdit [] (v.inside "components") (w.inside "components") → Edit v w

end Json

namespace Component

variable {levels : Nat} {around : List Json} {v w : Json}

/-- Values that agree in type and caption, and give the same components inside, are the same component. -/
theorem salvageAt_congr (h : Reading levels around) (hown : v.SameOwn w)
    (hinside : ∀ n, Reading n (v :: around) →
      (v.inside "children").filterMap (salvageAt n) = (w.inside "children").filterMap (salvageAt n)) :
    salvageAt levels v = salvageAt levels w := by
  cases levels with
  | zero => rfl
  | succ n =>
    rw [salvageAt_succ, salvageAt_succ, ← hown.kind?]
    cases hkind : v.kind? with
    | none => rfl
    | some k =>
      have hprops : salvageProps k (v.get? "props") = salvageProps k (w.get? "props") := by
        rw [salvageProps, salvageProps, hown.caption k hkind]
      rw [Option.map_some, Option.map_some, hprops, hinside n (h.inside (by rw [hkind]; rfl))]

/-- **One edit in a list leaves the components that are salvaged from it.** -/
theorem filterMap_salvageAt_of_edit {xs ys : List Json} (he : Json.ListEdit around xs ys) (h : Reading levels around) :
    xs.filterMap (salvageAt levels) = ys.filterMap (salvageAt levels) := by
  induction he generalizing levels with
  | insert before after hx | delete before after hx =>
    rw [List.filterMap_append, List.filterMap_append, List.filterMap_cons_none (salvageAt_of_not_kept h hx)]
  | rewrite before after hx hy =>
    rw [List.filterMap_append, List.filterMap_append, List.filterMap_cons_none (salvageAt_of_not_kept h hx),
      List.filterMap_cons_none (salvageAt_of_not_kept h hy)]
  | unread before after hown hchildren =>
    have hsame := salvageAt_congr h hown fun n _ => by rw [hchildren]
    simp only [List.filterMap_append, List.filterMap_cons, hsame]
  | inside before after hown _ ih =>
    have hsame := salvageAt_congr h hown fun n hn => ih hn
    simp only [List.filterMap_append, List.filterMap_cons, hsame]

end Component

/-! ## The plan -/

def Json.layoutText (v : Json) : String :=
  match v.get? "layout" with
  | some (.str s) => s
  | _ => "default"

namespace Plan

variable {v w : Json}

/-- The components at the top stand in nothing, and six levels are read. -/
theorem reading_top : Component.Reading (Limits.salvageDepth + 1) [] := ⟨rfl, by simp⟩

theorem layout_salvage (v : Json) : (salvage v).layout = v.layoutText := by
  show ((v.get? "layout").bind Json.text?).getD defaultLayout = v.layoutText
  unfold Json.layoutText
  cases v.get? "layout" with
  | none => rfl
  | some w => cases w <;> rfl

theorem components_salvage (v : Json) :
    (salvage v).components = (v.inside "components").filterMap Component.salvage := by
  rw [salvage, Json.getD_items?]

theorem rows_salvage (v : Json) : (salvage v).rows = v.keptNodes.flatMap Json.Node.rows := by
  have htop (x : Json) := Component.rows_salvageAt (v := x) reading_top
  rw [rows, components_salvage, Component.rowsAll_filterMap, Json.keptNodes, Json.nodes, List.filter_flatMap,
    List.flatMap_assoc]
  simp only [← htop]
  rfl

theorem salvage_of_edit (h : Json.Edit v w) : salvage w = salvage v := by
  have hcongr (hlayout : v.get? "layout" = w.get? "layout") (hcomponents : (v.inside "components").filterMap
      Component.salvage = (w.inside "components").filterMap Component.salvage) : salvage w = salvage v := by
    rw [salvage, salvage, Json.getD_items?, Json.getD_items?, hlayout, hcomponents]
  cases h with
  | unread hlayout hcomponents => exact hcongr hlayout (by rw [hcomponents])
  | nodes hlayout hedit => exact hcongr hlayout (Component.filterMap_salvageAt_of_edit hedit reading_top)

/-- Any number of edits leave the plan that is salvaged. -/
theorem salvage_of_edits (h : Relation.ReflTransGen Json.Edit v w) : salvage w = salvage v := by
  induction h with
  | refl => rfl
  | tail _ hedit ih => rw [salvage_of_edit hedit, ih]

/-- **Salvaging keeps exactly the nodes that name kinds, and so does what they stand in, down to depth 5.** The plan is
determined by the rows of these nodes, and edits of all the rest do not change it, nor what is recovered from it under
any limits. -/
theorem salvage_keeps (v : Json) :
    (∀ p : Plan, p = salvage v ↔ p.layout = v.layoutText ∧ p.rows = v.keptNodes.flatMap Json.Node.rows) ∧
    ∀ w, Relation.ReflTransGen Json.Edit v w → salvage w = salvage v ∧ ∀ l, recover w l = recover v l := by
  constructor
  · intro p
    rw [← layout_salvage, ← rows_salvage]
    constructor
    · rintro rfl
      exact ⟨rfl, rfl⟩
    · rintro ⟨hlayout, hrows⟩
      exact eq_of_rows hlayout hrows
  · intro w hedits
    have hsalvage := salvage_of_edits hedits
    refine ⟨hsalvage, fun l => ?_⟩
    rw [recover, recover, restore, restore, hsalvage]

def gridValue (component : Json) : Json := .obj [("components", .arr [component]), ("layout", .str "grid")]

def cardValue (unread : List (String × Json)) (inside : List Json) : Json :=
  let props := Json.obj (("title", .str "Users") :: unread)
  .obj ([("children", .arr inside), ("props", props), ("type", .str "Card")] ++ unread)

def scriptValue : Json := .obj [("type", .str "Script")]

/-- A script that is put inside a card, and members that are not read, leave the card with a button in it. -/
theorem salvage_keeps_edited :
    let before := gridValue (cardValue [] [])
    let after := gridValue (cardValue [("style", .null)] [scriptValue])
    Relation.ReflTransGen Json.Edit before after ∧ salvage after = salvage before ∧
      (∀ l, recover after l = recover before l) ∧
      (salvage before).rows = [⟨0, .card, [("title", "Users")]⟩, ⟨1, .button, [("label", "Action")]⟩] := by
  intro before after
  let between := gridValue (cardValue [] [scriptValue])
  have hinsert : Json.Edit before between :=
    .nodes rfl (.inside [] [] ⟨rfl, fun _ _ => rfl⟩ (.insert [] [] (by decide)))
  have hunread : Json.Edit between after := by
    refine .nodes rfl (.unread [] [] ⟨rfl, fun k hk => ?_⟩ rfl)
    cases hk
    rfl
  have hedits : Relation.ReflTransGen Json.Edit before after := .tail (.single hinsert) hunread
  obtain ⟨hsalvage, hrecover⟩ := (salvage_keeps before).2 after hedits
  exact ⟨hedits, hsalvage, hrecover, rfl⟩

end Plan

end Wireframe
