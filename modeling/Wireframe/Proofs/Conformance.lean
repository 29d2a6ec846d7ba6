import Wireframe.Plan.Intake
import Wireframe.Proofs.Values

/-!
# Plans and the schema

* **Values of plans** (`Plan.findings_toValue`): the value of a plan can only be too wide; its components keep the
  schema (`Schema.checkComponent_toValue`), by induction on the component.
* **Checks** (`Plan.check_toValue_iff`): so it passes when the plan has at most as many components as the schema allows.
* **Taking in** (`Plan.accept_eq_ok_iff`, `Plan.recover_eq_ok_iff`): when a value gives a plan, and which.
-/

namespace Wireframe

namespace Schema

/-! ## Values of plans -/

theorem checkProps_toJson (place : List Segment) (p : Props) : checkProps place p.toJson = [] := by
  simp [Props.toJson, checkProps, checkText, Json.text?, List.flatMap_map]

theorem checkKind_name (place : List Segment) (k : Kind) : checkKind place (.str k.name) = [] := by
  simp [checkKind, Json.text?]

/-- Items that keep the schema one by one keep it together. -/
theorem checkItems_eq_nil {vs : List Json} (h : ∀ v ∈ vs, ∀ place, checkComponent place v = []) (place : List Segment)
    (position : Nat) : checkItems place position vs = [] := by
  induction vs generalizing position with
  | nil => rw [checkItems]
  | cons v vs ih =>
    obtain ⟨hv, hvs⟩ := List.forall_mem_cons.mp h
    rw [checkItems, hv, ih hvs, List.nil_append]

theorem checkComponent_toValue (c : Component) : ∀ place, checkComponent place c.toValue = [] := by
  induction c using Component.induct with
  | mk kind props children ih =>
    intro place
    have hin : ∀ v ∈ children.map Component.toValue, ∀ place, checkComponent place v = [] := by
      intro v hv
      obtain ⟨c, hc, rfl⟩ := List.mem_map.mp hv
      exact ih c hc
    rw [Component.toValue_eq, checkComponent]
    simp [checkMembers, checkChildren, checkItems_eq_nil hin, checkProps_toJson, checkKind_name, require, Json.get?,
      Members.lookup_cons_ite]

end Schema

namespace Plan

/-- The value of a plan can only break the schema by its width. -/
theorem findings_toValue (p : Plan) : Schema.findings p.toValue =
    Schema.checkWidth [.key "components"] (.arr (p.components.map Component.toValue)) := by
  have hin : ∀ v ∈ p.components.map Component.toValue, ∀ place, Schema.checkComponent place v = [] := by
    intro v hv
    obtain ⟨c, _, rfl⟩ := List.mem_map.mp hv
    exact Schema.checkComponent_toValue c
  rw [Schema.findings, canon_toValue, toValue_eq, Schema.checkPlan]
  simp [Schema.checkPlanMembers, Schema.checkChildren, Schema.checkItems_eq_nil hin, Schema.checkText, Json.text?,
    Schema.require, Json.get?, Members.lookup_cons_ite]

theorem check_ok_iff {v : Json} : check v = .ok () ↔ Schema.findings v = [] := by
  rw [check, Schema.issues]
  cases Schema.findings v <;> simp

/-- A value fails for the first issue that the schema has with it. -/
theorem check_eq_error_iff {v : Json} {e : Rejection} :
    check v = .error e ↔ ∃ i rest, Schema.issues v = i :: rest ∧ e = .invalid i := by
  rw [check]
  cases Schema.issues v <;> simp [eq_comm]

/-- The value of a plan passes when the plan has no more components than the schema allows. -/
theorem check_toValue_iff {p : Plan} : check p.toValue = .ok () ↔ p.components.length ≤ Limits.schemaWidth := by
  rw [check_ok_iff, findings_toValue, Schema.checkWidth, List.length_map]
  split <;> simp <;> omega

/-! ## Taking in -/

theorem accept_eq_ok_iff {v : Json} {l : Limits} {p : Plan} :
    accept v l = .ok p ↔ check v = .ok () ∧ p = restore v l := by
  rw [accept]
  cases check v with
  | error e => simp [bind, Except.bind]
  | ok _ => simp [bind, Except.bind, pure, Except.pure, eq_comm]

theorem recover_eq_ok_iff {v : Json} {l : Limits} {p : Plan} :
    recover v l = .ok p ↔ check (restore v l).toValue = .ok () ∧ p = restore v l := by
  rw [recover]
  cases check (restore v l).toValue with
  | error e => simp [bind, Except.bind]
  | ok _ => simp [bind, Except.bind, pure, Except.pure, eq_comm]

end Plan

end Wireframe
