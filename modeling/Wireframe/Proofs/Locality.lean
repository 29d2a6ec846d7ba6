import Wireframe.Plan.Diff
import Wireframe.Proofs.Grammar
import Wireframe.Proofs.Pointers

/-!
# Findings stay with their components

What the checker finds in a value depends on the value alone, and the place where the value stands only goes in front of
the places that are found. So the issues of a document are those of its components, each moved to where it stands.

* **Moving** (`Schema.Finding.under`, `Issue.under`): every check can be moved (`Schema.Movable`), by recursion on the
  value for components (`Schema.checkComponent_append`); the issue of a moved finding is the moved issue.
* **Members** (`Schema.findings_component`, `Schema.findings_obj`): what is found in an object, member by member.
* **One level** (`Schema.componentIssues_eq`, `Schema.issues_eq`): the issues of the items, in their order, and issues
  that stand in no item.
* **All levels** (`Schema.filter_isUnder_componentIssues`, `Schema.filter_isUnder_issues`): by induction on the way to a
  component.
* **Components alone** (`Schema.issues_local`).
-/

namespace Wireframe

/-! ## Moved issues -/

namespace Issue

/-- An issue of a value that stands at a place of a larger one. -/
def under (place : List Segment) (x : Issue) : Issue := { x with path := ⟨place ++ x.path.segments⟩ }

def isUnder (place : List Segment) (x : Issue) : Bool := place.isPrefixOf x.path.segments

/-- An issue whose path starts with `new` where it started with `old`. -/
def reroot (old new : List Segment) (x : Issue) : Issue :=
  { x with path := ⟨new ++ x.path.segments.drop old.length⟩ }

theorem under_under (p q : List Segment) (x : Issue) : (x.under q).under p = x.under (p ++ q) := by
  simp only [under, List.append_assoc]

@[simp] theorem under_nil (x : Issue) : x.under [] = x := rfl

@[simp] theorem isUnder_nil (x : Issue) : x.isUnder [] = true := by
  rw [isUnder, List.isPrefixOf]

theorem isUnder_iff {p : List Segment} {x : Issue} : x.isUnder p = true ↔ p <+: x.path.segments :=
  List.isPrefixOf_iff_prefix

theorem isUnder_append_under (p q : List Segment) (x : Issue) : (x.under p).isUnder (p ++ q) = x.isUnder q := by
  rw [Bool.eq_iff_iff, isUnder_iff, isUnder_iff, under, List.prefix_append_right_inj]

theorem isUnder_of_append {p q : List Segment} {x : Issue} (h : x.isUnder (p ++ q) = true) : x.isUnder p = true :=
  isUnder_iff.mpr ((List.prefix_append p q).trans (isUnder_iff.mp h))

theorem isUnder_under (p : List Segment) (x : Issue) : (x.under p).isUnder p = true :=
  isUnder_iff.mpr (List.prefix_append p x.path.segments)

theorem reroot_under (p q : List Segment) (x : Issue) : (x.under p).reroot p q = x.under q := by
  rw [reroot, under, List.drop_left, under]

end Issue

/-! ## Components of a document -/

namespace Json

def follow? : Way → Json → Option Json
  | [], v => some v
  | i :: w, v => (v.inside "children")[i]?.bind (follow? w)

/-- What a way leads to from the top of a document. -/
def componentAt? (v : Json) : Way → Option Json
  | [] => none
  | i :: w => (v.inside "components")[i]?.bind (follow? w)

end Json

/-- An item of the list that a member is, as its place is reported. -/
def Path.item (key : String) (i : Nat) : List Segment := reported [.key key, .index i]

/-- The steps of a way inside a component. -/
def Way.steps (w : Way) : List Segment := w.flatMap (Path.item "children")

/-- The place that a way leads to from the top of a document. -/
def Way.place : Way → List Segment
  | [] => []
  | i :: w => Path.item "components" i ++ steps w

namespace Path

/-- The names of the schema are reported as they are. -/
theorem reported_name : ∀ k ∈ ["children", "components", "layout", "props", "type"],
    reported [.key k] = [.key k] := by
  decide +kernel

theorem item_eq (key : String) (i : Nat) : item key i = reported [.key key] ++ reported [.index i] :=
  reported_append [.key key] [.index i]

/-- Below `2 ^ 64` the items are reported as they are. -/
theorem item_of_lt {key : String} {i : Nat} (hkey : reported [.key key] = [.key key]) (hi : i < Nat.pow 2 64) :
    item key i = [.key key, .index i] := by
  rw [item_eq, hkey, reported_index, if_pos hi, List.singleton_append]

theorem reported_index_injective : Function.Injective fun i => reported [.index i] := by
  intro i j h
  simp only [reported_index, List.cons.injEq, and_true] at h
  split at h <;> split at h
  · exact Segment.index.inj h
  · cases h
  · cases h
  · exact Json.Scanner.toDigits_inj (String.ofList_injective (Segment.key.inj h))

/-- A place is in one item of a list only. -/
theorem position_eq_of_item_prefix {key : String} {i j : Nat} {place : List Segment} (hi : item key i <+: place)
    (hj : item key j <+: place) : i = j := by
  have hlength : (item key i).length = (item key j).length := by
    simp only [item_eq, List.length_append, reported_index, List.length_singleton]
  have hitem := (List.prefix_of_prefix_length_le hi hj hlength.le).eq_of_length hlength
  rw [item_eq, item_eq] at hitem
  exact reported_index_injective (List.append_cancel_left hitem)

end Path

namespace Schema

/-! ## Moved findings -/

def Finding.under (place : List Segment) (f : Finding) : Finding := { f with place := place ++ f.place }

/-- **The issue of a moved finding is the moved issue.** -/
theorem Finding.toIssue_under (place : List Segment) (f : Finding) :
    (f.under place).toIssue = f.toIssue.under (Path.reported place) := by
  simp only [toIssue, under, Issue.under, Path.segments_ofPointer_toPointer, ← Path.reported_append]
  rw [← Path.segments_ofPointer_toPointer]

/-- A check that finds the same at every place. -/
def Movable (check : List Segment → Json → List Finding) : Prop :=
  ∀ pre place v, check (pre ++ place) v = (check place v).map (Finding.under pre)

theorem movable_checkText : Movable checkText := by
  intro pre place v
  rw [checkText, checkText]
  split <;> rfl

theorem movable_checkKind : Movable checkKind := by
  intro pre place v
  rw [checkKind, checkKind]
  split <;> rfl

theorem movable_require (member : String) : Movable fun place v => require place v member := by
  intro pre place v
  simp only [require]
  split <;> rfl

theorem movable_checkProps : Movable checkProps := by
  intro pre place v
  cases v with
  | obj ms =>
    rw [checkProps, checkProps, List.map_flatMap]
    simp only [List.append_assoc, movable_checkText pre]
  | _ => rfl

mutual

/-- **What is found in a component does not depend on where it stands.** -/
theorem checkComponent_append (pre place : List Segment) :
    (v : Json) → checkComponent (pre ++ place) v = (checkComponent place v).map (Finding.under pre)
  | .obj ms => by
    rw [checkComponent, checkComponent, List.map_append, checkMembers_append pre place ms,
      ← movable_require "type" pre place (.obj ms)]
  | .null | .bool _ | .num _ | .str _ | .arr _ => by
    simp only [checkComponent, List.map_cons, List.map_nil, Finding.under]

theorem checkMembers_append (pre place : List Segment) :
    (ms : List (String × Json)) → checkMembers (pre ++ place) ms = (checkMembers place ms).map (Finding.under pre)
  | [] => by rw [checkMembers, checkMembers, List.map_nil]
  | (k, v) :: ms => by
    rw [checkMembers, checkMembers, List.map_append, checkMembers_append pre place ms]
    simp only [List.append_assoc, checkChildren_append pre _ v, movable_checkProps pre, movable_checkKind pre]
    split_ifs <;> rfl

theorem checkChildren_append (pre place : List Segment) :
    (v : Json) → checkChildren (pre ++ place) v = (checkChildren place v).map (Finding.under pre)
  | .arr xs => by rw [checkChildren, checkChildren, checkItems_append pre place 0 xs]
  | .null | .bool _ | .num _ | .str _ | .obj _ => by
    simp only [checkChildren, List.map_cons, List.map_nil, Finding.under]

theorem checkItems_append (pre place : List Segment) (position : Nat) : (vs : List Json) →
    checkItems (pre ++ place) position vs = (checkItems place position vs).map (Finding.under pre)
  | [] => by rw [checkItems, checkItems, List.map_nil]
  | v :: vs => by
    rw [checkItems, checkItems, List.map_append, List.append_assoc, checkComponent_append pre _ v,
      checkItems_append pre place (position + 1) vs]

end

/-! ## Members -/

/-- What a check finds in a member of a value, if the value has the member. -/
def inMember (check : List Segment → Json → List Finding) (key : String) (v : Json) : List Finding :=
  ((v.get? key).map fun w => check [.key key] w.canon).getD []

/-- What is found in one member of a component. -/
def checkMember (place : List Segment) (m : String × Json) : List Finding :=
  if m.1 = "children" then checkChildren (place ++ [.key "children"]) m.2
  else if m.1 = "props" then checkProps (place ++ [.key "props"]) m.2
  else if m.1 = "type" then checkKind (place ++ [.key "type"]) m.2
  else []

theorem checkMembers_eq_flatMap (place : List Segment) (ms : List (String × Json)) :
    checkMembers place ms = ms.flatMap (checkMember place) := by
  induction ms with
  | nil => rw [checkMembers, List.flatMap_nil]
  | cons m ms ih => rw [checkMembers, List.flatMap_cons, ih, checkMember]

/-- What is found in one member of a plan. -/
def checkPlanMember (m : String × Json) : List Finding :=
  if m.1 = "components" then checkChildren [.key "components"] m.2 ++ checkWidth [.key "components"] m.2
  else if m.1 = "layout" then checkText [.key "layout"] m.2
  else []

theorem checkPlanMembers_eq_flatMap (ms : List (String × Json)) :
    checkPlanMembers ms = ms.flatMap checkPlanMember := by
  induction ms with
  | nil => rw [checkPlanMembers, List.flatMap_nil]
  | cons m ms ih => rw [checkPlanMembers, List.flatMap_cons, ih, checkPlanMember]

/-- What is found in an object depends on what the named members are bound to. -/
theorem flatMap_canon_named {v : Json} {ms : List (String × Json)} (h : v.canon = .obj ms) {names : List String}
    (hnames : names.Pairwise (· < ·)) {f : String × Json → List Finding} (hf : ∀ m, m.1 ∉ names → f m = []) :
    ms.flatMap f = names.flatMap fun n => ((v.get? n).map fun w => f (n, w.canon)).getD [] := by
  rw [Members.flatMap_named (Json.ascending_of_canon_eq h) hnames hf]
  simp only [Json.lookup_of_canon_eq h, Option.map_map, Function.comp_def]

theorem require_canon (place : List Segment) (v : Json) (member : String) :
    require place v.canon member = require place v member := by
  rw [require, require, Json.get?_canon, Option.isSome_map]

/-- **What is found in a component**, member by member. -/
theorem findings_component (ns : List (String × Json)) : checkComponent [] (Json.obj ns).canon =
    inMember checkChildren "children" (.obj ns) ++ inMember checkProps "props" (.obj ns) ++
      inMember checkKind "type" (.obj ns) ++ require [] (.obj ns) "type" := by
  have hcanon : (Json.obj ns).canon = .obj (Members.sort (Json.canonMembers ns)) := by rw [Json.canon]
  have hfree : ∀ m, m.1 ∉ ["children", "props", "type"] → checkMember [] m = [] := by
    simp +contextual [checkMember]
  rw [← require_canon, hcanon, checkComponent, checkMembers_eq_flatMap,
    flatMap_canon_named hcanon (by decide) hfree]
  simp [checkMember, inMember]

/-- **What is found in an object that should be a plan**, member by member. -/
theorem findings_obj (ns : List (String × Json)) : findings (.obj ns) =
    inMember checkChildren "components" (.obj ns) ++ inMember checkWidth "components" (.obj ns) ++
      inMember checkText "layout" (.obj ns) ++ require [] (.obj ns) "layout" ++
      require [] (.obj ns) "components" := by
  have hcanon : (Json.obj ns).canon = .obj (Members.sort (Json.canonMembers ns)) := by rw [Json.canon]
  have hfree : ∀ m, m.1 ∉ ["components", "layout"] → checkPlanMember m = [] := by
    simp +contextual [checkPlanMember]
  rw [findings, ← require_canon _ _ "layout", ← require_canon _ _ "components", hcanon, checkPlan,
    checkPlanMembers_eq_flatMap, flatMap_canon_named hcanon (by decide) hfree]
  cases hc : (Json.obj ns).get? "components" <;> simp [checkPlanMember, inMember, hc]

/-! ## One level -/

def componentIssues (v : Json) : List Issue := (checkComponent [] v.canon).map Finding.toIssue

/-- The issues of the components in a list that is a member, each where it stands. -/
def itemIssues (key : String) (vs : List Json) : List Issue :=
  vs.zipIdx.flatMap fun x => (componentIssues x.1).map (Issue.under (Path.item key x.2))

/-- Issues of which none stands in an item of the list that a member is. -/
def Apart (key : String) (xs : List Issue) : Prop := ∀ x ∈ xs, ∀ i, x.isUnder (Path.item key i) = false

theorem checkItems_eq_flatMap (place : List Segment) (position : Nat) (vs : List Json) :
    checkItems place position vs =
      (vs.zipIdx position).flatMap fun x => (checkComponent [] x.1).map (Finding.under (place ++ [.index x.2])) := by
  induction vs generalizing position with
  | nil => rw [checkItems, List.zipIdx_nil, List.flatMap_nil]
  | cons v vs ih =>
    rw [checkItems, List.zipIdx_cons, List.flatMap_cons, ih, ← checkComponent_append, List.append_nil]

theorem map_toIssue_items (key : String) (vs : List Json) :
    ((vs.zipIdx.flatMap fun x => (checkComponent [] x.1.canon).map (Finding.under [.key key, .index x.2])).map
      Finding.toIssue) = itemIssues key vs := by
  rw [itemIssues, List.map_flatMap]
  refine List.flatMap_congr fun x _ => ?_
  rw [componentIssues, List.map_map, List.map_map]
  exact List.map_congr_left fun f _ => Finding.toIssue_under _ f

theorem issues_inMember {key : String} {v : Json} {vs : List Json} (h : v.get? key = some (.arr vs)) :
    (inMember checkChildren key v).map Finding.toIssue = itemIssues key vs := by
  rw [inMember, h, Option.map_some, Option.getD_some, Json.canon, checkChildren, checkItems_eq_flatMap,
    Json.canonItems_eq_map, List.zipIdx_map, List.flatMap_map, ← map_toIssue_items]
  rfl

/-! ## Apart from the items -/

theorem Apart.append {key : String} {xs ys : List Issue} (hx : Apart key xs) (hy : Apart key ys) :
    Apart key (xs ++ ys) :=
  List.forall_mem_append.mpr ⟨hx, hy⟩

theorem Apart.filter_eq_nil {key : String} {xs : List Issue} (h : Apart key xs) (i : Nat) (place : List Segment) :
    xs.filter (Issue.isUnder (Path.item key i ++ place)) = [] :=
  List.filter_eq_nil_iff.mpr fun x hx hunder => Bool.eq_false_iff.mp (h x hx i) (Issue.isUnder_of_append hunder)

section

variable {key : String} (hkey : Path.reported [.key key] = [.key key])

include hkey

theorem apart_of_short {fs : List Finding} (h : ∀ f ∈ fs, f.place.length ≤ 1) :
    Apart key (fs.map Finding.toIssue) := by
  intro x hx i
  obtain ⟨f, hf, rfl⟩ := List.mem_map.mp hx
  rw [Bool.eq_false_iff, ne_eq, Issue.isUnder_iff, Finding.toIssue, Path.segments_ofPointer_toPointer]
  intro hprefix
  have hitem : (Path.item key i).length = 2 := by rw [Path.item_eq, hkey, Path.reported_index]; rfl
  have hshort : (Path.reported f.place).length ≤ f.place.length := by
    rw [Path.reported, List.length_map]
    exact (List.length_filter_le _ _).trans_eq (List.length_map _)
  have := hprefix.length_le
  have := h f hf
  omega

theorem apart_inMember {check : List Segment → Json → List Finding} (hcheck : Movable check) {other : String}
    (hother : Path.reported [.key other] = [.key other]) (hne : key ≠ other) (v : Json) :
    Apart key ((inMember check other v).map Finding.toIssue) := by
  intro x hx i
  obtain ⟨f, hf, rfl⟩ := List.mem_map.mp hx
  obtain ⟨g, rfl⟩ : ∃ g : Finding, f = g.under [.key other] := by
    rw [inMember] at hf
    cases hv : v.get? other with
    | none => simp [hv] at hf
    | some w =>
      rw [hv, Option.map_some, Option.getD_some, ← List.append_nil [Segment.key other], hcheck] at hf
      obtain ⟨g, _, rfl⟩ := List.mem_map.mp hf
      exact ⟨g, rfl⟩
  rw [Finding.toIssue_under, hother, Path.item_eq, hkey, Bool.eq_false_iff]
  intro hunder
  have hprefix := Issue.isUnder_iff.mp (Issue.isUnder_of_append hunder)
  rw [Issue.under, List.cons_append, List.cons_prefix_cons] at hprefix
  exact hne (Segment.key.inj hprefix.1)

/-- What is found in a member that should be a list of components: the issues of its items, or that it is no list. -/
theorem exists_itemIssues_append (v : Json) : ∃ rest,
    (inMember checkChildren key v).map Finding.toIssue = itemIssues key (v.inside key) ++ rest ∧ Apart key rest := by
  cases hv : v.get? key with
  | none => exact ⟨[], by simp [inMember, Json.inside, hv, itemIssues], by simp [Apart]⟩
  | some w =>
    have hinside : v.inside key = w.items?.getD [] := by rw [← Json.getD_items?, hv, Option.bind_some]
    cases w with
    | arr vs => exact ⟨[], by simp [issues_inMember hv, hinside, Json.items?], by simp [Apart]⟩
    | _ =>
      have hshort : ∀ f ∈ inMember checkChildren key v, f.place.length ≤ 1 := by
        simp [inMember, hv, Json.canon, checkChildren]
      exact ⟨_, by simp [hinside, Json.items?, itemIssues], apart_of_short hkey hshort⟩

theorem apart_require (v : Json) (member : String) : Apart key ((require [] v member).map Finding.toIssue) := by
  refine apart_of_short hkey fun f hf => ?_
  rw [require] at hf
  split at hf
  · cases hf
  · rw [List.mem_singleton.mp hf]
    exact Nat.zero_le 1

end

/-- **The issues of a component are those of its children, in their order, and issues that stand in no child.** -/
theorem componentIssues_eq (v : Json) : ∃ rest,
    componentIssues v = itemIssues "children" (v.inside "children") ++ rest ∧ Apart "children" rest := by
  have hkey : Path.reported [.key "children"] = [.key "children"] := Path.reported_name _ (by decide)
  cases v with
  | obj ns =>
    obtain ⟨rest, hitems, hrest⟩ := exists_itemIssues_append hkey (.obj ns)
    have hprops := apart_inMember hkey movable_checkProps (Path.reported_name "props" (by decide)) (by decide) (.obj ns)
    have hkind := apart_inMember hkey movable_checkKind (Path.reported_name "type" (by decide)) (by decide) (.obj ns)
    refine ⟨_, ?_, ((hrest.append hprops).append hkind).append (apart_require hkey (.obj ns) "type")⟩
    simp only [componentIssues, findings_component, List.map_append, hitems, List.append_assoc]
  | _ =>
    refine ⟨_, (List.nil_append _).symm, apart_of_short hkey ?_⟩
    simp [Json.canon, checkComponent]

theorem place_of_mem_checkWidth {place : List Segment} {v : Json} {f : Finding} (h : f ∈ checkWidth place v) :
    f.place = place := by
  cases v with
  | arr xs =>
    rw [checkWidth] at h
    split at h
    · rw [List.mem_singleton.mp h]
    · cases h
  | _ => cases h

/-- **The issues of a document are those of its components, in their order, and issues that stand in no component.** -/
theorem issues_eq (v : Json) : ∃ rest,
    issues v = itemIssues "components" (v.inside "components") ++ rest ∧ Apart "components" rest := by
  have hkey : Path.reported [.key "components"] = [.key "components"] := Path.reported_name _ (by decide)
  cases v with
  | obj ns =>
    obtain ⟨rest, hitems, hrest⟩ := exists_itemIssues_append hkey (.obj ns)
    have hwidth : Apart "components" ((inMember checkWidth "components" (.obj ns)).map Finding.toIssue) := by
      refine apart_of_short hkey fun f hf => ?_
      cases hc : (Json.obj ns).get? "components" with
      | none => simp [inMember, hc] at hf
      | some w =>
        rw [inMember, hc, Option.map_some, Option.getD_some] at hf
        rw [place_of_mem_checkWidth hf]
        exact Nat.le_refl 1
    have hlayout :=
      apart_inMember hkey movable_checkText (Path.reported_name "layout" (by decide)) (by decide) (.obj ns)
    refine ⟨_, ?_, (((hrest.append hwidth).append hlayout).append (apart_require hkey (.obj ns) "layout")).append
      (apart_require hkey (.obj ns) "components")⟩
    simp only [issues, findings_obj, List.map_append, hitems, List.append_assoc]
  | _ =>
    refine ⟨_, (List.nil_append _).symm, apart_of_short hkey ?_⟩
    simp [findings, Json.canon, checkPlan]

/-! ## All levels -/

/-- What the numbered items give, when only one of them gives anything. -/
theorem flatMap_zipIdx_of_single {α β : Type} {vs : List α} {i : Nat} {c : α} {f : α × Nat → List β}
    (start : Nat) (h : vs[i]? = some c) (hf : ∀ x, x.2 ≠ start + i → f x = []) :
    (vs.zipIdx start).flatMap f = f (c, start + i) := by
  induction vs generalizing i start with
  | nil => cases h
  | cons v vs ih =>
    rw [List.zipIdx_cons, List.flatMap_cons]
    cases i with
    | zero =>
      cases h
      have hrest : (vs.zipIdx (start + 1)).flatMap f = [] := by
        refine List.flatMap_eq_nil_iff.mpr fun x hx => hf x ?_
        have := List.le_snd_of_mem_zipIdx hx
        omega
      rw [hrest, List.append_nil, Nat.add_zero]
    | succ i =>
      have hstart : start + (i + 1) = start + 1 + i := by omega
      rw [hf (v, start) (by simp), List.nil_append, hstart]
      exact ih (start + 1) h fun x hx => hf x (hstart ▸ hx)

/-- **The issues in one item are those of the item.** -/
theorem filter_itemIssues {key : String} {vs : List Json} {i : Nat} {c : Json} (h : vs[i]? = some c)
    (place : List Segment) : (itemIssues key vs).filter (Issue.isUnder (Path.item key i ++ place)) =
      ((componentIssues c).filter (Issue.isUnder place)).map (Issue.under (Path.item key i)) := by
  rw [itemIssues, List.filter_flatMap, flatMap_zipIdx_of_single 0 h, Nat.zero_add, List.filter_map]
  · simp only [Function.comp_def, Issue.isUnder_append_under]
  · -- an issue of another item would stand in two items of the list
    rintro ⟨x, j⟩ hj
    refine List.filter_eq_nil_iff.mpr fun y hy hunder => hj ?_
    obtain ⟨z, _, rfl⟩ := List.mem_map.mp hy
    have hi := Issue.isUnder_iff.mp (Issue.isUnder_of_append hunder)
    rw [Nat.zero_add]
    exact Path.position_eq_of_item_prefix (List.prefix_append _ z.path.segments) hi

/-- **The issues inside a component that a way leads to are those of the component.** -/
theorem filter_isUnder_componentIssues {w : Way} {c d : Json} (h : c.follow? w = some d) :
    (componentIssues c).filter (Issue.isUnder w.steps) = (componentIssues d).map (Issue.under w.steps) := by
  induction w generalizing c with
  | nil =>
    cases h
    rw [Way.steps, List.flatMap_nil, List.filter_eq_self.mpr fun x _ => Issue.isUnder_nil x,
      List.map_congr_left fun x _ => Issue.under_nil x, List.map_id']
  | cons i w ih =>
    -- of the issues of `c` those in the child `e` remain, and of these the ones that the rest of the way leads to
    obtain ⟨e, he, hd⟩ := Option.bind_eq_some_iff.mp h
    obtain ⟨rest, hc, hrest⟩ := componentIssues_eq c
    rw [Way.steps, List.flatMap_cons, ← Way.steps, hc, List.filter_append, filter_itemIssues he, ih hd,
      hrest.filter_eq_nil]
    simp only [List.append_nil, List.map_map, Function.comp_def, Issue.under_under]

/-- **The issues of a document inside a component that a way leads to are those of the component.** -/
theorem filter_isUnder_issues {w : Way} {v d : Json} (h : v.componentAt? w = some d) :
    (issues v).filter (Issue.isUnder w.place) = (componentIssues d).map (Issue.under w.place) := by
  cases w with
  | nil => cases h
  | cons i w =>
    obtain ⟨c, hc, hd⟩ := Option.bind_eq_some_iff.mp h
    obtain ⟨rest, hv, hrest⟩ := issues_eq v
    rw [Way.place, hv, List.filter_append, filter_itemIssues hc, filter_isUnder_componentIssues hd,
      hrest.filter_eq_nil]
    simp only [List.append_nil, List.map_map, Function.comp_def, Issue.under_under]

/-! ## Components alone -/

def alone (layout : String) (c : Json) : Json := .obj [("layout", .str layout), ("components", .arr [c])]

/-- A document whose layout is a text and that is not too wide has the issues of its components only. -/
theorem issues_of_narrow {v : Json} {text : String} {cs : List Json} (hlayout : v.get? "layout" = some (.str text))
    (hcs : v.get? "components" = some (.arr cs)) (hwidth : cs.length ≤ 30) :
    issues v = itemIssues "components" cs := by
  obtain ⟨ns, rfl⟩ := Json.exists_obj_of_get? hcs
  have hnarrow : inMember checkWidth "components" (.obj ns) = [] := by
    rw [inMember, hcs]
    exact checkWidth_canon_eq_nil_iff.mpr hwidth
  have htext : inMember checkText "layout" (.obj ns) = [] := by
    rw [inMember, hlayout]
    exact checkText_eq_nil_iff.mpr ⟨text, by rw [Json.canon]⟩
  have hhas {key : String} {w : Json} (h : (Json.obj ns).get? key = some w) : require [] (.obj ns) key = [] :=
    require_eq_nil_iff.mpr ⟨w, h⟩
  rw [issues, findings_obj, hnarrow, htext, hhas hlayout, hhas hcs, ← issues_inMember hcs]
  simp only [List.append_nil]

theorem issues_alone (layout : String) (c : Json) :
    issues (alone layout c) = (componentIssues c).map (Issue.under (Path.item "components" 0)) := by
  have hlayout : (alone layout c).get? "layout" = some (.str layout) := by
    rw [alone, Json.get?, Members.lookup_cons_ite, if_pos rfl]
  have hcs : (alone layout c).get? "components" = some (.arr [c]) := by
    rw [alone, Json.get?, Members.lookup_cons_ite, if_neg (by decide), Members.lookup_cons_ite, if_pos rfl]
  rw [issues_of_narrow hlayout hcs (by simp), itemIssues]
  simp

theorem reroot_issues_alone (layout : String) (c : Json) (place : List Segment) :
    (issues (alone layout c)).map (Issue.reroot (Path.item "components" 0) place) =
      (componentIssues c).map (Issue.under place) := by
  rw [issues_alone, List.map_map]
  exact List.map_congr_left fun x _ => Issue.reroot_under _ _ x

/-- A component has the issues of its children, and then those that it has with no children. -/
theorem componentIssues_children {ns : List (String × Json)} {ds : List Json}
    (h : (Json.obj ns).get? "children" = some (.arr ds)) : componentIssues (.obj ns) =
      itemIssues "children" ds ++ componentIssues (.obj (Members.insert "children" (.arr []) ns)) := by
  have hget (key : String) : (Json.obj (Members.insert "children" (.arr []) ns)).get? key =
      if key = "children" then some (.arr []) else (Json.obj ns).get? key := by
    simp only [Json.get?, Members.lookup_insert]
  simp only [componentIssues, findings_component, List.map_append, issues_inMember h,
    issues_inMember ((hget "children").trans (if_pos rfl))]
  simp [itemIssues, inMember, require, hget]

/-- **Validation is local.** A document with a text as its layout and at most 30 components has the issues of each
component alone, in the order of the components, where the place of the component alone becomes its place in the
document. Whatever the document is, the issues inside a component that a way leads to are those of the component alone;
and the issues of a component are those of each child alone, in the order of the children, and then those that it has
with no children. -/
theorem issues_local (v : Json) (layout : String) :
    (∀ text cs, v.get? "layout" = some (.str text) → v.get? "components" = some (.arr cs) → cs.length ≤ 30 →
      issues v = cs.zipIdx.flatMap fun c => (issues (alone layout c.1)).map
        (Issue.reroot [.key "components", .index 0] [.key "components", .index c.2])) ∧
    (∀ c, ∀ x ∈ issues (alone layout c), x.isUnder [.key "components", .index 0] = true) ∧
    (∀ w c, v.componentAt? w = some c → (issues v).filter (Issue.isUnder w.place) =
      (issues (alone layout c)).map (Issue.reroot [.key "components", .index 0] w.place)) ∧
    (∀ ms ds, (Json.obj ms).get? "children" = some (.arr ds) → issues (alone layout (.obj ms)) =
      (ds.zipIdx.flatMap fun d => (issues (alone layout d.1)).map (Issue.reroot [.key "components", .index 0]
        ([.key "components", .index 0] ++ Path.item "children" d.2))) ++
      issues (alone layout (.obj (Members.insert "children" (.arr []) ms)))) ∧
    ∀ i < Nat.pow 2 64, Path.item "components" i = [.key "components", .index i] ∧
      Path.item "children" i = [.key "children", .index i] := by
  have hcomponents {i : Nat} (hi : i < Nat.pow 2 64) : Path.item "components" i = [.key "components", .index i] :=
    Path.item_of_lt (Path.reported_name _ (by decide)) hi
  have hchildren {i : Nat} (hi : i < Nat.pow 2 64) : Path.item "children" i = [.key "children", .index i] :=
    Path.item_of_lt (Path.reported_name _ (by decide)) hi
  rw [← hcomponents (by decide)]
  refine ⟨fun text cs hlayout hcs hwidth => ?_, fun c x hx => ?_, fun w c hc => ?_, fun ms ds hds => ?_,
    fun i hi => ⟨hcomponents hi, hchildren hi⟩⟩
  · rw [issues_of_narrow hlayout hcs hwidth, itemIssues]
    refine List.flatMap_congr fun c hc => ?_
    have hlt : c.2 < cs.length := List.snd_lt_of_mem_zipIdx hc
    rw [reroot_issues_alone, hcomponents ((hlt.trans_le hwidth).trans (by decide))]
  · rw [issues_alone] at hx
    obtain ⟨y, _, rfl⟩ := List.mem_map.mp hx
    exact Issue.isUnder_under _ y
  · rw [reroot_issues_alone, filter_isUnder_issues hc]
  · simp only [reroot_issues_alone]
    rw [issues_alone, issues_alone, componentIssues_children hds, List.map_append, itemIssues, List.map_flatMap]
    simp only [List.map_map, Function.comp_def, Issue.under_under]

def faulty : Json :=
  .obj [("components", .arr [.obj [("type", .str "Butto")],
    .obj [("children", .arr [.obj []]), ("type", .str "Card")]]), ("layout", .str "column")]

theorem issues_local_faulty :
    (issues faulty).map (fun x => x.path.text) = ["$.components[0].type", "$.components[1].children[0]"] ∧
    (issues faulty = [(.obj [("type", .str "Butto")], 0),
        (.obj [("children", .arr [.obj []]), ("type", .str "Card")], 1)].flatMap fun c =>
      (issues (alone "row" c.1)).map
        (Issue.reroot [.key "components", .index 0] [.key "components", .index c.2])) ∧
    faulty.componentAt? [1, 0] = some (.obj []) ∧
    (issues faulty).filter (Issue.isUnder (Way.place [1, 0])) =
      (issues (alone "row" (.obj []))).map (Issue.reroot [.key "components", .index 0] (Way.place [1, 0])) := by
  obtain ⟨hitems, _, hways, _⟩ := issues_local faulty "row"
  have hchild : faulty.componentAt? [1, 0] = some (.obj []) := by rfl
  exact ⟨by decide +kernel, hitems "column" _ rfl rfl (by decide), hchild, hways [1, 0] _ hchild⟩

end Schema

end Wireframe
