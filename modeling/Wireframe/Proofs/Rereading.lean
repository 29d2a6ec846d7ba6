import Wireframe.ModelText
import Wireframe.Plan.Explanation
import Wireframe.Proofs.Canonical
import Wireframe.Proofs.PlanTexts

/-!
# Reading plans again

What the pipeline gives can be printed, parsed and taken in again without a change.

* **Depths** (`Component.depth_settle_le`, `Plan.shallow_refine`): a refined plan ends one level below the guard, so its
  text can be parsed.
* **Plans that can be read again** (`Plan.Reread`): narrow plans that refining leaves alone (`Plan.Narrow.reread`).
* **Where they come from** (`Plan.reread_of_runBy`, `Plan.reread_of_planOf`): answers to requests and plans from a
  model.
-/

namespace Wireframe

/-! ## Depths -/

namespace Component

theorem height_le {cs : List Component} {n : Nat} (h : ∀ c ∈ cs, c.depth < n) : height cs ≤ n := by
  induction cs with
  | nil => exact Nat.zero_le n
  | cons c cs ih =>
    obtain ⟨hc, hcs⟩ := List.forall_mem_cons.mp h
    rw [height]
    exact Nat.max_le.mpr ⟨hc, ih hcs⟩

theorem mem_orFallback {k : Kind} {cs : List Component} {c : Component} (h : c ∈ orFallback k cs) :
    c = fallback ∨ c ∈ cs := by
  rw [orFallback] at h
  split at h
  · exact .inl (List.mem_singleton.mp h)
  · exact .inr h

/-- A walk goes at most one level below the guard, for the fallback there. -/
theorem depth_settle_le (levels room : Nat) (c : Component) : (settle levels room c).depth ≤ levels + 1 := by
  have hfallback : fallback.depth = 0 := rfl
  induction levels generalizing room c with
  | zero =>
    cases room with
    | zero => exact Nat.zero_le 1
    | succ room =>
      rw [settle, depth]
      refine height_le fun d hd => ?_
      rcases mem_orFallback hd with rfl | hd
      · omega
      · cases hd
  | succ levels ih =>
    cases room with
    | zero => exact Nat.zero_le _
    | succ room =>
      rw [settle, depth]
      refine height_le fun d hd => ?_
      rcases mem_orFallback hd with rfl | hd
      · omega
      · obtain ⟨e, _, rfl⟩ := List.mem_map.mp hd
        have := ih room e
        omega

end Component

namespace Plan

variable {p : Plan} {l : Limits}

theorem shallow_refine (p : Plan) (l : Limits) : (p.refine l).Shallow := by
  intro n hn
  have hheight : Component.height (p.refine l).components ≤ Limits.salvageDepth + 2 := by
    rw [refine_eq]
    refine Component.height_le fun c hc => ?_
    obtain ⟨d, _, rfl⟩ := List.mem_map.mp hc
    have := Component.depth_settle_le Limits.salvageDepth l.maxDepth d
    omega
  simp only [Limits.salvageDepth] at hheight
  rw [maxDepth] at hn
  split at hn
  · cases hn
  · obtain rfl := Option.some.inj hn
    omega

/-! ## Plans that can be read again -/

/-- A plan that can be read again under some limits: its pretty text is parsed as its value, and its value is accepted
as the plan itself, so that it has the markup, the module and the explanations of the plan. -/
structure Reread (l : Limits) (p : Plan) : Prop where
  printed : ∀ before after, Json.Gap before → Json.Gap after →
    Json.parse (String.ofList (before ++ (p.toJson.pretty.toList ++ after))) = .ok p.toValue
  accepted : accept p.toValue l = .ok p
  markup : markupOf p.toValue l = .ok p.markup
  asModule : (accept p.toValue l).map Plan.asModule = .ok p.asModule
  explanation : ∀ prompt, explanationOf prompt p.toValue l = explain prompt p l

theorem Narrow.reread (hn : p.Narrow) (hr : p.refine l = p) : p.Reread l := by
  have haccept : accept p.toValue l = .ok p := accept_eq_ok_iff.mpr ⟨hn.check, hr.symm⟩
  have hshallow : p.Shallow := hr ▸ shallow_refine p l
  have hprinted {a b : List Char} (ha : Json.Gap a) (hb : Json.Gap b) :=
    (hshallow.read_spelled (.inl rfl) (Json.spells_pretty p.toJson) ha hb).2
  refine ⟨fun _ _ => hprinted, haccept, ?_, ?_, fun prompt => ?_⟩
  · rw [markupOf, haccept]
    rfl
  · rw [haccept]
    rfl
  · rw [explanationOf, haccept]
    rfl

theorem Reread.shallow (h : p.Reread l) : p.Shallow := by
  have hp : p = p.refine l := eq_restore_of_accept h.accepted
  rw [hp]
  exact shallow_refine p l

theorem Reread.parse_pretty (h : p.Reread l) : Json.parse p.toJson.pretty = .ok p.toValue := by
  simpa using h.printed [] [] Json.gap_nil Json.gap_nil

/-! ## Where they come from -/

theorem reread_of_runBy {read : String → Classification} {r : Request} {a : Answer} (h : r.runBy read l = .ok a) :
    a.plan.Reread l :=
  (Request.narrow_of_runBy h).reread (canonical_of_runBy h).refine_eq_self

theorem reread_of_recover {v : Json} (h : recover v l = .ok p) : p.Reread l := by
  obtain ⟨hcheck, rfl⟩ := recover_eq_ok_iff.mp h
  exact Narrow.reread (check_toValue_iff.mp hcheck) (canonical_restore v l).refine_eq_self

theorem reread_of_planOf {text : String} (h : ModelText.planOf text l = .ok p) : p.Reread l := by
  rw [ModelText.planOf] at h
  cases hv : ModelText.readObject text with
  | error e =>
    rw [hv] at h
    cases h
  | ok v =>
    rw [hv] at h
    simp only [bind, Except.bind] at h
    split at h
    · next hp =>
      cases h
      exact reread_of_recover hp
    · cases h

end Plan

end Wireframe
