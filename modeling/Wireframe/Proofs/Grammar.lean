import Mathlib.Tactic.SplitIfs
import Wireframe.Proofs.Conformance

/-!
# The grammar of plans

What a plan document is, said without places and findings, and that the checker looks for exactly this.

* **Members** (`Json.mem_of_canon_eq`, `Json.inside`): the members of a canonical object, and what stands in a list.
* **The grammar** (`Schema.IsTexts`, `Schema.IsComponent`, `Schema.IsPlan`): objects by the members that they have to
  have and may have. Members that the grammar does not name are free; of members with one key the first one counts.
* **One level** (`checkComponent_canon_eq_nil_iff`): what it means that the checker finds nothing in a component, except
  inside it.
* **Components** (`checkComponent_canon_iff`): from the checker to the grammar by induction on the value, and back by
  induction on the grammar.
* **Plans** (`findings_eq_nil_iff`, `Plan.check_iff_isPlan`), which are salvaged to plans that are narrow enough
  (`Plan.width_salvage_of_check`).
-/

namespace Wireframe

/-! ## Members of canonical values -/

namespace Json

theorem ascending_of_canon_eq {v : Json} {ms : List (String × Json)} (h : v.canon = .obj ms) :
    Members.Ascending ms := by
  cases v with
  | obj ns =>
    rw [canon] at h
    cases h
    exact Members.ascending_sort _
  | _ => simp [canon] at h

/-- A key is bound to the canonical form of the member that it had before. -/
theorem lookup_of_canon_eq {v : Json} {ms : List (String × Json)} (h : v.canon = .obj ms) (k : String) :
    ms.lookup k = (v.get? k).map canon := by
  rw [← get?_canon, h, get?]

/-- The members of a canonical object are what its keys are bound to. -/
theorem mem_of_canon_eq {v : Json} {ms : List (String × Json)} (h : v.canon = .obj ms) {k : String} {w : Json} :
    (k, w) ∈ ms ↔ ∃ u, v.get? k = some u ∧ u.canon = w := by
  rw [Members.mem_iff_lookup (ascending_of_canon_eq h).nodup_keys, lookup_of_canon_eq h, Option.map_eq_some_iff]

/-- A value is an object when its canonical form is one. -/
theorem exists_canon_eq_obj_iff {v : Json} : (∃ ms, v.canon = .obj ms) ↔ ∃ ns, v = .obj ns := by
  cases v with
  | obj ns => exact ⟨fun _ => ⟨ns, rfl⟩, fun _ => ⟨_, by rw [canon]⟩⟩
  | _ => simp [canon]

@[simp] theorem text?_canon (v : Json) : v.canon.text? = v.text? := by
  cases v <;> simp [canon, text?]

theorem text?_eq_some_iff {v : Json} {s : String} : v.text? = some s ↔ v = .str s := by
  cases v <;> simp [text?]

theorem exists_obj_of_get? {v w : Json} {key : String} (h : v.get? key = some w) : ∃ ms, v = .obj ms := by
  cases v with
  | obj ms => exact ⟨ms, rfl⟩
  | _ => cases h

/-- What stands in the list in a member of a value; nothing if there is no list. -/
def inside (v : Json) (key : String) : List Json :=
  match v.get? key with
  | some (.arr xs) => xs
  | _ => []

theorem getD_items? (v : Json) (key : String) : ((v.get? key).bind items?).getD [] = v.inside key := by
  unfold inside
  cases v.get? key with
  | none => rfl
  | some w => cases w <;> rfl

theorem mem_inside {v x : Json} {key : String} (h : x ∈ v.inside key) : ∃ xs, v.get? key = some (.arr xs) ∧ x ∈ xs := by
  unfold inside at h
  split at h
  · next xs hxs => exact ⟨xs, hxs, h⟩
  · cases h

theorem sizeOf_lt_of_get? {v x : Json} {key : String} {xs : List Json} (h : v.get? key = some (.arr xs)) (hx : x ∈ xs) :
    sizeOf x < sizeOf v := by
  obtain ⟨ms, rfl⟩ := exists_obj_of_get? h
  rw [get?] at h
  obtain ⟨before, after, rfl, _⟩ := List.lookup_eq_some_iff.mp h
  have hm : (key, Json.arr xs) ∈ before ++ (key, Json.arr xs) :: after := by simp
  have hlist := List.sizeOf_lt_of_mem hx
  have hmember := List.sizeOf_lt_of_mem hm
  simp only [arr.sizeOf_spec, obj.sizeOf_spec, Prod.mk.sizeOf_spec] at hmember ⊢
  omega

/-- What holds of a value whenever it holds of all that stands in lists in its members holds of all values. -/
theorem induct_inside {motive : Json → Prop}
    (step : ∀ v, (∀ key xs x, v.get? key = some (.arr xs) → x ∈ xs → motive x) → motive v) (v : Json) : motive v :=
  step v fun _ _ x h hx =>
    have _ := sizeOf_lt_of_get? h hx
    induct_inside step x
termination_by sizeOf v

end Json

/-! ## The grammar -/

namespace Schema

/-- An object whose members are all texts. -/
structure IsTexts (v : Json) : Prop where
  object : ∃ ms, v = .obj ms
  texts : ∀ key w, v.get? key = some w → ∃ s, w = .str s

/-- An object that names its kind; its props, if it has any, are texts, and its children, if it has any, are a list of
components. -/
inductive IsComponent : Json → Prop
  | mk {ms : List (String × Json)} (kind : Kind) (children : List Json) :
      (Json.obj ms).get? "type" = some (.str kind.name) →
      (∀ w, (Json.obj ms).get? "props" = some w → IsTexts w) →
      (∀ w, (Json.obj ms).get? "children" = some w → w = .arr children) →
      (∀ c ∈ children, IsComponent c) → IsComponent (.obj ms)

/-- An object whose layout is a text and whose components are a list of at most 30 components. -/
structure IsPlan (v : Json) : Prop where
  object : ∃ ms, v = .obj ms
  layout : ∃ s, v.get? "layout" = some (.str s)
  components : ∃ xs, v.get? "components" = some (.arr xs) ∧ xs.length ≤ 30 ∧ ∀ x ∈ xs, IsComponent x

/-! ## One level -/

theorem checkText_eq_nil_iff {place : List Segment} {v : Json} : checkText place v = [] ↔ ∃ s, v = .str s := by
  rw [checkText]
  cases v <;> simp [Json.text?]

theorem checkKind_eq_nil_iff {place : List Segment} {v : Json} :
    checkKind place v = [] ↔ ∃ k : Kind, v = .str k.name := by
  rw [checkKind]
  constructor
  · intro h
    split at h
    · next hs =>
      obtain ⟨k, hk⟩ := Option.isSome_iff_exists.mp hs
      obtain ⟨s, hs, hk⟩ := Option.bind_eq_some_iff.mp hk
      exact ⟨k, by rw [Json.text?_eq_some_iff.mp hs, Kind.name_of_ofName? hk]⟩
    · cases h
  · rintro ⟨k, rfl⟩
    simp [Json.text?]

theorem require_eq_nil_iff {place : List Segment} {v : Json} {member : String} :
    require place v member = [] ↔ ∃ w, v.get? member = some w := by
  rw [require]
  split
  · next h => simp [Option.isSome_iff_exists.mp h]
  · next h => simpa [Option.isSome_iff_exists] using h

theorem canon_eq_str_iff {v : Json} {s : String} : v.canon = .str s ↔ v = .str s := by
  rw [← Json.text?_eq_some_iff, Json.text?_canon, Json.text?_eq_some_iff]

theorem checkProps_canon_eq_nil_iff {place : List Segment} {v : Json} : checkProps place v.canon = [] ↔ IsTexts v := by
  constructor
  · intro h
    cases hv : v.canon with
    | obj ms =>
      rw [hv, checkProps, List.flatMap_eq_nil_iff] at h
      refine ⟨Json.exists_canon_eq_obj_iff.mp ⟨_, hv⟩, fun key w hw => ?_⟩
      obtain ⟨s, hs⟩ := checkText_eq_nil_iff.mp (h (key, w.canon) ((Json.mem_of_canon_eq hv).mpr ⟨w, hw, rfl⟩))
      exact ⟨s, canon_eq_str_iff.mp hs⟩
    | _ => simp [hv, checkProps] at h
  · rintro ⟨⟨ns, rfl⟩, htexts⟩
    have hv : (Json.obj ns).canon = .obj (Members.sort (Json.canonMembers ns)) := by rw [Json.canon]
    rw [hv, checkProps, List.flatMap_eq_nil_iff]
    rintro ⟨key, w⟩ hm
    obtain ⟨u, hu, rfl⟩ := (Json.mem_of_canon_eq hv).mp hm
    obtain ⟨s, rfl⟩ := htexts key u hu
    exact checkText_eq_nil_iff.mpr ⟨s, canon_eq_str_iff.mpr rfl⟩

/-- Nothing is found in members when nothing is found in those that the schema names. -/
theorem checkMembers_eq_nil_iff {place : List Segment} {ms : List (String × Json)} : checkMembers place ms = [] ↔
    (∀ w, ("children", w) ∈ ms → checkChildren (place ++ [.key "children"]) w = []) ∧
    (∀ w, ("props", w) ∈ ms → checkProps (place ++ [.key "props"]) w = []) ∧
    (∀ w, ("type", w) ∈ ms → checkKind (place ++ [.key "type"]) w = []) := by
  induction ms with
  | nil => simp [checkMembers]
  | cons m ms ih =>
    obtain ⟨k, v⟩ := m
    rw [checkMembers, List.append_eq_nil_iff, ih]
    simp only [List.mem_cons, Prod.mk.injEq]
    split_ifs <;> grind

theorem checkPlanMembers_eq_nil_iff {ms : List (String × Json)} : checkPlanMembers ms = [] ↔
    (∀ w, ("components", w) ∈ ms →
      checkChildren [.key "components"] w = [] ∧ checkWidth [.key "components"] w = []) ∧
    (∀ w, ("layout", w) ∈ ms → checkText [.key "layout"] w = []) := by
  induction ms with
  | nil => simp [checkPlanMembers]
  | cons m ms ih =>
    obtain ⟨k, v⟩ := m
    rw [checkPlanMembers, List.append_eq_nil_iff, ih]
    simp only [List.mem_cons, Prod.mk.injEq]
    split_ifs <;> grind [List.append_eq_nil_iff]

/-- The checker finds nothing in a component when it is an object that names its kind, with texts, and when it finds
nothing inside. -/
theorem checkComponent_canon_eq_nil_iff {place : List Segment} {v : Json} : checkComponent place v.canon = [] ↔
    (∃ ms, v = .obj ms) ∧ (∃ k : Kind, v.get? "type" = some (.str k.name)) ∧
    (∀ w, v.get? "props" = some w → IsTexts w) ∧
    (∀ w, v.get? "children" = some w → checkChildren (place ++ [.key "children"]) w.canon = []) := by
  cases hv : v.canon with
  | obj ms =>
    have hmem := fun k w => @Json.mem_of_canon_eq v ms hv k w
    have htype : (Json.obj ms).get? "type" = (v.get? "type").map Json.canon := by rw [← hv, Json.get?_canon]
    rw [checkComponent, List.append_eq_nil_iff, checkMembers_eq_nil_iff, require_eq_nil_iff, htype]
    simp only [hmem, Option.map_eq_some_iff]
    constructor
    · rintro ⟨⟨hchildren, hprops, hkind⟩, _, u, hu, _⟩
      obtain ⟨k, hk⟩ := checkKind_eq_nil_iff.mp (hkind _ ⟨u, hu, rfl⟩)
      exact ⟨Json.exists_canon_eq_obj_iff.mp ⟨_, hv⟩, ⟨k, by rw [hu, canon_eq_str_iff.mp hk]⟩,
        fun w hw => checkProps_canon_eq_nil_iff.mp (hprops _ ⟨w, hw, rfl⟩), fun w hw => hchildren _ ⟨w, hw, rfl⟩⟩
    · rintro ⟨_, ⟨k, hk⟩, hprops, hchildren⟩
      refine ⟨⟨?_, ?_, ?_⟩, _, _, hk, rfl⟩
      · rintro _ ⟨u, hu, rfl⟩
        exact hchildren u hu
      · rintro _ ⟨u, hu, rfl⟩
        exact checkProps_canon_eq_nil_iff.mpr (hprops u hu)
      · rintro _ ⟨u, hu, rfl⟩
        rw [hk] at hu
        cases hu
        exact checkKind_eq_nil_iff.mpr ⟨k, canon_eq_str_iff.mpr rfl⟩
  | _ =>
    constructor
    · intro h
      simp [checkComponent] at h
    · rintro ⟨⟨ms, rfl⟩, _⟩
      simp [Json.canon] at hv

/-! ## Components -/

/-- Where nothing is found in a list, nothing is found in its items. -/
theorem checkComponent_of_checkItems {place : List Segment} {position : Nat} {vs : List Json}
    (h : checkItems place position vs = []) {v : Json} (hv : v ∈ vs) : ∃ p, checkComponent p v = [] := by
  induction vs generalizing position with
  | nil => cases hv
  | cons w vs ih =>
    rw [checkItems, List.append_eq_nil_iff] at h
    rcases List.mem_cons.mp hv with rfl | hv
    · exact ⟨_, h.1⟩
    · exact ih h.2 hv

/-- Nothing is found in a list of values that are all found to be components, wherever they stand. -/
theorem checkChildren_canon_eq_nil_iff {place : List Segment} {v : Json} {good : Json → Prop}
    (hgood : ∀ xs, v = .arr xs → ∀ x ∈ xs, ∀ p, checkComponent p x.canon = [] ↔ good x) :
    checkChildren place v.canon = [] ↔ ∃ xs, v = .arr xs ∧ ∀ x ∈ xs, good x := by
  cases v with
  | arr xs =>
    have hgood := hgood xs rfl
    rw [Json.canon, checkChildren, Json.canonItems_eq_map]
    constructor
    · intro h
      refine ⟨xs, rfl, fun x hx => ?_⟩
      obtain ⟨p, hp⟩ := checkComponent_of_checkItems h (List.mem_map_of_mem hx)
      exact (hgood x hx p).mp hp
    · rintro ⟨_, hxs, h⟩
      cases hxs
      refine checkItems_eq_nil (fun w hw p => ?_) place 0
      obtain ⟨x, hx, rfl⟩ := List.mem_map.mp hw
      exact (hgood x hx p).mpr (h x hx)
  | _ => simp [Json.canon, checkChildren]

theorem isComponent_iff {v : Json} : IsComponent v ↔ (∃ ms, v = .obj ms) ∧
    (∃ k : Kind, v.get? "type" = some (.str k.name)) ∧ (∀ w, v.get? "props" = some w → IsTexts w) ∧
    (∀ w, v.get? "children" = some w → ∃ xs, w = .arr xs ∧ ∀ x ∈ xs, IsComponent x) := by
  constructor
  · intro h
    cases h with
    | mk kind children hkind hprops hchildren hin =>
      exact ⟨⟨_, rfl⟩, ⟨kind, hkind⟩, hprops, fun w hw => ⟨children, hchildren w hw, hin⟩⟩
  · rintro ⟨⟨ms, rfl⟩, ⟨kind, hkind⟩, hprops, hchildren⟩
    cases hc : (Json.obj ms).get? "children" with
    | none => exact .mk kind [] hkind hprops (by simp [hc]) (by simp)
    | some w =>
      obtain ⟨xs, rfl, hin⟩ := hchildren w hc
      exact .mk kind xs hkind hprops (by simp [hc]) hin

/-- **The checker finds nothing in components, and in nothing else.** -/
theorem checkComponent_canon_iff (v : Json) : ∀ place, checkComponent place v.canon = [] ↔ IsComponent v := by
  induction v using Json.induct_inside with
  | step v ih =>
    intro place
    rw [checkComponent_canon_eq_nil_iff, isComponent_iff]
    refine and_congr_right fun _ => and_congr_right fun _ => and_congr_right fun _ => ?_
    refine forall_congr' fun w => forall_congr' fun hw => ?_
    exact checkChildren_canon_eq_nil_iff fun xs hxs x hx => ih "children" xs x (hxs ▸ hw) hx

/-! ## Plans -/

theorem checkWidth_canon_eq_nil_iff {place : List Segment} {xs : List Json} :
    checkWidth place (Json.arr xs).canon = [] ↔ xs.length ≤ 30 := by
  rw [Json.canon, checkWidth, Json.canonItems_eq_map, List.length_map]
  split
  · next h => exact ⟨fun e => by simp at e, fun e => absurd e (Nat.not_le.mpr h)⟩
  · next h => exact ⟨fun _ => Nat.not_lt.mp h, fun _ => rfl⟩

/-- **The schema finds nothing in plans, and in nothing else.** -/
theorem findings_eq_nil_iff {v : Json} : findings v = [] ↔ IsPlan v := by
  rw [findings]
  cases hv : v.canon with
  | obj ms =>
    have hmem := fun k w => @Json.mem_of_canon_eq v ms hv k w
    have hget : ∀ k, (Json.obj ms).get? k = (v.get? k).map Json.canon := fun k => by rw [← hv, Json.get?_canon]
    have hitems : ∀ w : Json, checkChildren [.key "components"] w.canon = [] ↔
        ∃ xs, w = .arr xs ∧ ∀ x ∈ xs, IsComponent x := fun _ =>
      checkChildren_canon_eq_nil_iff fun _ _ x _ p => checkComponent_canon_iff x p
    rw [checkPlan, List.append_eq_nil_iff, List.append_eq_nil_iff, checkPlanMembers_eq_nil_iff, require_eq_nil_iff,
      require_eq_nil_iff, hget, hget]
    simp only [hmem, Option.map_eq_some_iff]
    constructor
    · rintro ⟨⟨⟨hcomponents, hlayout⟩, _, l, hl, _⟩, _, c, hc, _⟩
      obtain ⟨s, hs⟩ := checkText_eq_nil_iff.mp (hlayout _ ⟨l, hl, rfl⟩)
      obtain ⟨hin, hwidth⟩ := hcomponents _ ⟨c, hc, rfl⟩
      obtain ⟨xs, rfl, hxs⟩ := (hitems c).mp hin
      exact ⟨Json.exists_canon_eq_obj_iff.mp ⟨_, hv⟩, ⟨s, by rw [hl, canon_eq_str_iff.mp hs]⟩,
        xs, hc, checkWidth_canon_eq_nil_iff.mp hwidth, hxs⟩
    · rintro ⟨_, ⟨s, hs⟩, xs, hxs, hwidth, hin⟩
      refine ⟨⟨⟨?_, ?_⟩, _, _, hs, rfl⟩, _, _, hxs, rfl⟩
      · rintro _ ⟨u, hu, rfl⟩
        rw [hxs] at hu
        cases hu
        exact ⟨(hitems _).mpr ⟨xs, rfl, hin⟩, checkWidth_canon_eq_nil_iff.mpr hwidth⟩
      · rintro _ ⟨u, hu, rfl⟩
        rw [hs] at hu
        cases hu
        exact checkText_eq_nil_iff.mpr ⟨s, canon_eq_str_iff.mpr rfl⟩
  | _ =>
    constructor
    · intro h
      simp [checkPlan] at h
    · rintro ⟨⟨ms, rfl⟩, _⟩
      simp [Json.canon] at hv

end Schema

namespace Plan

theorem check_iff_isPlan {v : Json} : check v = .ok () ↔ Schema.IsPlan v :=
  check_ok_iff.trans Schema.findings_eq_nil_iff

/-- A value that passes is salvaged to a plan that is narrow enough. -/
theorem width_salvage_of_check {v : Json} (h : check v = .ok ()) :
    (salvage v).components.length ≤ Limits.schemaWidth := by
  obtain ⟨_, _, xs, hxs, hwidth, _⟩ := check_iff_isPlan.mp h
  have hsalvage : (salvage v).components = xs.filterMap Component.salvage := by
    simp [salvage, hxs, Json.items?]
  rw [hsalvage]
  exact Nat.le_trans (List.length_filterMap_le _ _) hwidth

end Plan

end Wireframe
