import Wireframe.Proofs.Session

/-!
# Canonical plans

A plan is canonical under limits (`Plan.Canonical`) when it is narrow enough and each of its components keeps a few
rules about its depth, its texts and what stands right inside it. Below the guard only fallbacks stand.

* **Fixpoints** (`Component.settle_zero_eq_self_iff`, `settle_guard_eq_self_iff`, `settle_succ_eq_self_iff`): what it
  means that the walk of refining leaves a component alone, at the bound, at the guard and above both.
* **From the walk to the rules** (`Plan.placed_of_stands`): every component of a plan that refining leaves alone is at
  its place (`Plan.Placed`), by induction on the way to it.
* **From the rules to the walk** (`Plan.Canonical.settle_eq_self`): by induction on the component.
* **Characterisation** (`Plan.canonical_iff_fixpoint`): the plans that the pipeline gives are canonical, and refining
  leaves exactly the canonical plans alone.
-/

namespace Wireframe

/-! ## The rules -/

/-- The texts of a component of a kind are those that the kind shows, none of them empty or too long; an input repeats
its label as its placeholder. -/
def Kind.HasTexts (k : Kind) (p : Props) : Prop :=
  match k with
  | .card | .modal => ∃ s, Fits s ∧ p.entries = [("title", s)]
  | .button => ∃ s, Fits s ∧ p.entries = [("label", s)]
  | .input => ∃ s, Fits s ∧ p.entries = [("label", s), ("placeholder", s)]

namespace Plan

/-- A component stands in a plan inside others, the nearest of them first. Its depth is their number. -/
inductive Stands (p : Plan) : List Component → Component → Prop
  | top {c : Component} : c ∈ p.components → Stands p [] c
  | inside {around : List Component} {c d : Component} : Stands p around c → d ∈ c.children → Stands p (c :: around) d

/-- A plan that keeps the limits and is complete, and in which nothing but a fallback stands below the guard. -/
structure Canonical (l : Limits) (p : Plan) : Prop where
  width : p.components.length ≤ l.maxComponents
  depth : ∀ around c, p.Stands around c → around.length ≤ l.maxDepth
  texts : ∀ around c, p.Stands around c → c.kind.HasTexts c.props
  filled : ∀ around c, p.Stands around c → c.kind.isContainer = true → c.children = [] → around.length = l.maxDepth
  guarded : ∀ around c, p.Stands around c → Limits.salvageDepth < around.length →
    around.length = Limits.salvageDepth + 1 ∧ c.kind = .button ∧ c.children = [] ∧
    c.props.get? "label" = some "Action" ∧
    ∃ parent others, around = parent :: others ∧ parent.kind.isContainer = true ∧ parent.children = [c]

end Plan

/-! ## Fixpoints of the walk -/

theorem Kind.entries_texts_input (s : String) :
    (Kind.input.texts s).entries = [("label", s), ("placeholder", s)] := by
  have hkeys : ¬ "placeholder" < "label" := by decide
  simp only [texts, caption, Props.set, Props.empty, Members.insert, hkeys, String.reduceEq, if_false]

/-- The texts that a kind shows are those of one caption that fits. -/
theorem Kind.hasTexts_iff {k : Kind} {p : Props} : k.HasTexts p ↔ ∃ s, Fits s ∧ p = k.texts s := by
  have he : ∀ s, (p = k.texts s ↔ p.entries = (k.texts s).entries) := fun s => ⟨fun h => h ▸ rfl, Props.ext⟩
  simp only [he]
  cases k with
  | card | button | modal => exact Iff.rfl
  | input => simp only [HasTexts, entries_texts_input]

namespace Component

/-- The texts of a component are settled when they are those that its kind shows. -/
theorem texts_settledCaption_eq_iff {k : Kind} {p : Props} : k.texts (k.settledCaption p) = p ↔ k.HasTexts p := by
  rw [Kind.hasTexts_iff]
  constructor
  · intro h
    exact ⟨_, Kind.settledCaption_fits k p, h.symm⟩
  · rintro ⟨s, hs, rfl⟩
    rw [Kind.settledCaption_texts hs]

/-- A walk leaves a component alone when it leaves the texts alone and what is inside. -/
theorem mk_settled_eq_iff {c : Component} {cs : List Component} :
    (⟨c.kind, c.kind.texts (c.kind.settledCaption c.props), cs⟩ : Component) = c ↔
      c.kind.HasTexts c.props ∧ c.children = cs := by
  obtain ⟨k, p, ds⟩ := c
  rw [Component.mk.injEq, texts_settledCaption_eq_iff, eq_comm (a := cs)]
  exact and_iff_right rfl

/-- At the greatest depth nothing is inside. -/
theorem settle_zero_eq_self_iff {levels : Nat} {c : Component} :
    settle levels 0 c = c ↔ c.kind.HasTexts c.props ∧ c.children = [] := by
  rw [← mk_settled_eq_iff]
  cases levels <;> rfl

/-- At the guard a container has its fallback and nothing else is inside. -/
theorem settle_guard_eq_self_iff {room : Nat} {c : Component} :
    settle 0 (room + 1) c = c ↔ c.kind.HasTexts c.props ∧ c.children = orFallback c.kind [] := by
  rw [← mk_settled_eq_iff, settle]

/-- Where components are inside, no fallback is needed. -/
theorem orFallback_map_of_ne {k : Kind} {cs : List Component} (f : Component → Component)
    (h : k.isContainer = true → cs ≠ []) : orFallback k (cs.map f) = cs.map f := by
  cases hk : k.isContainer <;> cases cs <;> simp_all [orFallback]

/-- Above the guard and the bound no container is empty, and what is inside is left alone. -/
theorem settle_succ_eq_self_iff {levels room : Nat} {c : Component} :
    settle (levels + 1) (room + 1) c = c ↔ c.kind.HasTexts c.props ∧
      (c.kind.isContainer = true → c.children ≠ []) ∧ ∀ d ∈ c.children, settle levels room d = d := by
  rw [settle, mk_settled_eq_iff]
  refine and_congr_right fun _ => ?_
  constructor
  · intro h
    have hne : c.kind.isContainer = true → c.children ≠ [] := by
      intro hk hn
      rw [hn, List.map_nil, orFallback, hk] at h
      cases h
    rw [orFallback_map_of_ne _ hne] at h
    exact ⟨hne, map_eq_self_iff.mp h.symm⟩
  · rintro ⟨hne, hin⟩
    rw [orFallback_map_of_ne _ hne, map_eq_self_iff.mpr hin]

theorem hasTexts_fallback : fallback.kind.HasTexts fallback.props :=
  Kind.hasTexts_iff.mpr ⟨"Action", ⟨by decide, by decide⟩, rfl⟩

theorem hasTexts_of_settle {levels room : Nat} {c : Component} (h : settle levels room c = c) :
    c.kind.HasTexts c.props := by
  have hp := congrArg Component.props h
  rw [settle_props] at hp
  exact texts_settledCaption_eq_iff.mp hp

end Component

/-! ## From the walk to the rules -/

namespace Plan

open Component (settle fallback)

/-- A component is at its place when a walk with the levels and the room that are left there leaves it alone, or when
it is the fallback in a container at the guard. -/
inductive Placed (l : Limits) (around : List Component) (c : Component) : Prop
  | settled {levels room : Nat} : around.length + levels = Limits.salvageDepth → around.length + room = l.maxDepth →
      settle levels room c = c → Placed l around c
  | fallback {parent : Component} {others : List Component} : around = parent :: others →
      others.length = Limits.salvageDepth → around.length ≤ l.maxDepth → parent.kind.isContainer = true →
      parent.children = [c] → c = Component.fallback → Placed l around c

/-- What is inside a component at its place is at its place. -/
theorem Placed.inside {l : Limits} {around : List Component} {c d : Component} (h : Placed l around c)
    (hd : d ∈ c.children) : Placed l (c :: around) d := by
  cases h with
  | fallback _ _ _ _ _ hc =>
    subst hc
    cases hd
  | @settled levels room hl hr hc =>
    cases room with
    | zero =>
      rw [(Component.settle_zero_eq_self_iff.mp hc).2] at hd
      cases hd
    | succ room =>
      cases levels with
      | zero =>
        have hin := (Component.settle_guard_eq_self_iff.mp hc).2
        cases hk : c.kind.isContainer with
        | false =>
          rw [hin, Component.orFallback, hk] at hd
          cases hd
        | true =>
          rw [Component.orFallback, hk] at hin
          have hd' : d = Component.fallback := by
            rw [hin] at hd
            exact List.mem_singleton.mp hd
          exact .fallback rfl (by omega) (by simp only [List.length_cons]; omega) hk (hd' ▸ hin) hd'
      | succ levels =>
        have hin := (Component.settle_succ_eq_self_iff.mp hc).2.2 d hd
        exact .settled (by simp only [List.length_cons]; omega) (by simp only [List.length_cons]; omega) hin

/-- Every component of a plan whose top components the walk leaves alone is at its place. -/
theorem placed_of_stands {p : Plan} {l : Limits}
    (hp : ∀ c ∈ p.components, settle Limits.salvageDepth l.maxDepth c = c) {around : List Component} {c : Component}
    (h : p.Stands around c) : Placed l around c := by
  induction h with
  | top hc => exact .settled (by simp) (by simp) (hp _ hc)
  | inside _ hd ih => exact ih.inside hd

theorem Placed.depth {l : Limits} {around : List Component} {c : Component} (h : Placed l around c) :
    around.length ≤ l.maxDepth := by
  cases h with
  | settled _ hr _ => omega
  | fallback _ _ hm _ _ _ => exact hm

theorem Placed.texts {l : Limits} {around : List Component} {c : Component} (h : Placed l around c) :
    c.kind.HasTexts c.props := by
  cases h with
  | settled _ _ hc => exact Component.hasTexts_of_settle hc
  | fallback _ _ _ _ _ hc => exact hc ▸ Component.hasTexts_fallback

/-- A container at its place is empty at the greatest depth only. -/
theorem Placed.filled {l : Limits} {around : List Component} {c : Component} (h : Placed l around c)
    (hk : c.kind.isContainer = true) (hn : c.children = []) : around.length = l.maxDepth := by
  cases h with
  | fallback _ _ _ _ _ hc =>
    subst hc
    cases hk
  | @settled levels room _ hr hc =>
    cases room with
    | zero => exact hr
    | succ room =>
      cases levels with
      | zero =>
        have hin := (Component.settle_guard_eq_self_iff.mp hc).2
        rw [hn, Component.orFallback, hk] at hin
        cases hin
      | succ levels => exact absurd hn ((Component.settle_succ_eq_self_iff.mp hc).2.1 hk)

/-- Below the guard only fallbacks are at their place. -/
theorem Placed.guarded {l : Limits} {around : List Component} {c : Component} (h : Placed l around c)
    (hg : Limits.salvageDepth < around.length) :
    around.length = Limits.salvageDepth + 1 ∧ c.kind = .button ∧ c.children = [] ∧
      c.props.get? "label" = some "Action" ∧
      ∃ parent others, around = parent :: others ∧ parent.kind.isContainer = true ∧ parent.children = [c] := by
  cases h with
  | settled hl _ _ => omega
  | @fallback parent others ha ho _ hk hp hc =>
    exact ⟨by rw [ha, List.length_cons, ho], hc ▸ rfl, hc ▸ rfl, hc ▸ rfl, parent, others, ha, hk, hp⟩

/-- A plan that refining leaves alone is narrow enough, and the walk leaves its top components alone. -/
theorem refine_eq_self_iff {p : Plan} {l : Limits} : p.refine l = p ↔
    p.components.length ≤ l.maxComponents ∧ ∀ c ∈ p.components, settle Limits.salvageDepth l.maxDepth c = c := by
  obtain ⟨layout, cs⟩ := p
  rw [refine_eq]
  simp only [Plan.mk.injEq, true_and]
  constructor
  · intro h
    have hlen := congrArg List.length h
    rw [List.length_map, List.length_take] at hlen
    have hw : cs.length ≤ l.maxComponents := by omega
    rw [List.take_of_length_le hw] at h
    exact ⟨hw, Component.map_eq_self_iff.mp h⟩
  · rintro ⟨hw, hc⟩
    rw [List.take_of_length_le hw, Component.map_eq_self_iff.mpr hc]

theorem canonical_of_refine_eq_self {p : Plan} {l : Limits} (h : p.refine l = p) : Canonical l p where
  width := (refine_eq_self_iff.mp h).1
  depth _ _ hs := (placed_of_stands (refine_eq_self_iff.mp h).2 hs).depth
  texts _ _ hs := (placed_of_stands (refine_eq_self_iff.mp h).2 hs).texts
  filled _ _ hs := (placed_of_stands (refine_eq_self_iff.mp h).2 hs).filled
  guarded _ _ hs := (placed_of_stands (refine_eq_self_iff.mp h).2 hs).guarded

/-! ## From the rules to the walk -/

theorem eq_fallback {c : Component} (hk : c.kind = .button) (hn : c.children = []) (ht : c.kind.HasTexts c.props)
    (hl : c.props.get? "label" = some "Action") : c = Component.fallback := by
  obtain ⟨k, p, cs⟩ := c
  cases hk
  cases hn
  obtain ⟨s, _, hp⟩ := Kind.hasTexts_iff.mp ht
  have hp : p = Kind.button.texts s := hp
  have hs : s = "Action" := by simpa [hp, Kind.texts, Kind.caption, Props.get?_set] using hl
  rw [hp, hs]
  rfl

/-- In a canonical plan what is inside a component at the guard is the fallback of a container. -/
theorem Canonical.children_at_guard {l : Limits} {p : Plan} (hp : Canonical l p) {around : List Component}
    {c : Component} (hs : p.Stands around c) (hl : around.length = Limits.salvageDepth)
    (hr : around.length < l.maxDepth) : c.children = Component.orFallback c.kind [] := by
  have hin : ∀ d ∈ c.children, c.kind.isContainer = true ∧ c.children = [Component.fallback] := by
    intro d hd
    have hsd := hs.inside hd
    obtain ⟨_, hk, hn, hlab, parent, others, ha, hpk, hpc⟩ := hp.guarded _ d hsd (by simp [hl])
    cases ha
    exact ⟨hpk, by rw [hpc, eq_fallback hk hn (hp.texts _ d hsd) hlab]⟩
  cases hc : c.children with
  | nil =>
    cases hk : c.kind.isContainer with
    | false => simp [Component.orFallback, hk]
    | true =>
      have := hp.filled around c hs hk hc
      omega
  | cons d ds =>
    obtain ⟨hk, hd⟩ := hin d (by simp [hc])
    rw [← hc, hd, Component.orFallback, hk]
    rfl

/-- In a canonical plan the walk leaves every component down to the guard alone. -/
theorem Canonical.settle_eq_self {l : Limits} {p : Plan} (hp : Canonical l p) (c : Component) :
    ∀ {around : List Component} {levels room : Nat}, p.Stands around c →
      around.length + levels = Limits.salvageDepth → around.length + room = l.maxDepth →
      settle levels room c = c := by
  induction c using Component.induct with
  | mk kind props children ih =>
    intro around levels room hs hl hr
    have ht := hp.texts around _ hs
    cases room with
    | zero =>
      have hn : children = [] := List.eq_nil_iff_forall_not_mem.mpr fun d hd => by
        have := hp.depth _ d (hs.inside hd)
        simp only [List.length_cons] at this
        omega
      exact Component.settle_zero_eq_self_iff.mpr ⟨ht, hn⟩
    | succ room =>
      cases levels with
      | zero =>
        have hg := hp.children_at_guard hs (by omega) (by omega)
        exact Component.settle_guard_eq_self_iff.mpr ⟨ht, hg⟩
      | succ levels =>
        refine Component.settle_succ_eq_self_iff.mpr ⟨ht, fun hk hn => ?_, fun d hd => ?_⟩
        · have := hp.filled around _ hs hk hn
          omega
        · exact ih d hd (hs.inside hd) (by simp only [List.length_cons]; omega)
            (by simp only [List.length_cons]; omega)

theorem Canonical.refine_eq_self {l : Limits} {p : Plan} (hp : Canonical l p) : p.refine l = p :=
  refine_eq_self_iff.mpr ⟨hp.width, fun c hc => hp.settle_eq_self c (.top hc) (by simp) (by simp)⟩

/-! ## The pipeline -/

theorem canonical_refine (p : Plan) (l : Limits) : Canonical l (p.refine l) :=
  canonical_of_refine_eq_self (refine_refine p (Nat.le_refl _) (Nat.le_refl _))

theorem canonical_restore (v : Json) (l : Limits) : Canonical l (restore v l) :=
  restore_eq_refine v l ▸ canonical_refine _ l

theorem eq_restore_of_accept {v : Json} {l : Limits} {p : Plan} (h : accept v l = .ok p) : p = restore v l :=
  (accept_eq_ok_iff.mp h).2

theorem eq_restore_of_recover {v : Json} {l : Limits} {p : Plan} (h : recover v l = .ok p) : p = restore v l :=
  (recover_eq_ok_iff.mp h).2

theorem canonical_of_runBy {read : String → Classification} {r : Request} {l : Limits} {a : Answer}
    (h : r.runBy read l = .ok a) : Canonical l a.plan := by
  obtain ⟨_, _, rfl⟩ := Request.runBy_eq_ok_iff.mp h
  exact canonical_refine _ l

/-- **Canonical plans are exactly the fixpoints of the pipeline.** Every plan that it accepts, recovers, refines or
answers with is canonical under its limits, and refining leaves a plan alone exactly when the plan is canonical. -/
theorem canonical_iff_fixpoint :
    (∀ (v : Json) (l : Limits) (p : Plan), accept v l = .ok p → Canonical l p) ∧
    (∀ (v : Json) (l : Limits) (p : Plan), recover v l = .ok p → Canonical l p) ∧
    (∀ (p : Plan) (l : Limits), Canonical l (p.refine l)) ∧
    (∀ (read : String → Classification) (r : Request) (l : Limits) (a : Answer),
      r.runBy read l = .ok a → Canonical l a.plan) ∧
    (∀ (p : Plan) (l : Limits), p.refine l = p ↔ Canonical l p) := by
  refine ⟨fun v l p h => ?_, fun v l p h => ?_, canonical_refine, fun _ _ _ _ h => canonical_of_runBy h, fun p l => ?_⟩
  · rw [eq_restore_of_accept h]
    exact canonical_restore v l
  · rw [eq_restore_of_recover h]
    exact canonical_restore v l
  · exact ⟨canonical_of_refine_eq_self, Canonical.refine_eq_self⟩

/-- A value with seven components, each inside the one before. -/
def nested : Json :=
  .obj [("components", .arr [Nat.repeat (fun v => .obj [("children", .arr [v]), ("type", .str "Card")]) 6
    (.obj [("type", .str "Button")])]), ("layout", .str "a")]

/-- A value with a component below the guard, accepted, recovered and asked about; a fallback stands there then. -/
theorem canonical_iff_fixpoint_nested :
    accept nested { maxDepth := 7 } = .ok (restore nested { maxDepth := 7 }) ∧
    recover nested { maxDepth := 7 } = .ok (restore nested { maxDepth := 7 }) ∧
    (restore nested { maxDepth := 7 }).maxDepth = some 6 ∧
    Canonical { maxDepth := 7 } (restore nested { maxDepth := 7 }) ∧
    ∃ a, Request.runBy Prompt.classify ⟨"login form", some nested⟩ { maxDepth := 7 } = .ok a ∧
      Canonical { maxDepth := 7 } a.plan := by
  obtain ⟨haccept, hrecover, _, hanswer, _⟩ := canonical_iff_fixpoint
  have ha : accept nested { maxDepth := 7 } = .ok (restore nested { maxDepth := 7 }) := rfl
  have hr : recover nested { maxDepth := 7 } = .ok (restore nested { maxDepth := 7 }) := rfl
  have hq : Request.runBy Prompt.classify ⟨"login form", some nested⟩ { maxDepth := 7 } = .ok _ :=
    Request.runBy_of_last_ok rfl rfl
  exact ⟨ha, hr, by decide, hrecover _ _ _ hr, _, hq, hanswer _ _ _ _ hq⟩

end Plan

end Wireframe
