import Wireframe.Plan.Crop
import Wireframe.Proofs.Differences

/-!
# What cropping keeps

A cropped plan is described by the ways into it.

* **Depths** (`Component.cropAt_eq`, `Plan.components_crop`): a component at the greatest depth stays, without what it
  holds; what stands one level deeper is dropped.
* **Ways into a cropped component** (`Component.follow?_crop`): a way that is not too long leads to what it led to
  before, cropped to the levels that are left; a longer one leads nowhere.
* **Ways into a cropped plan** (`Plan.at?_crop`, `Plan.map_own_at?_crop`): a way also has to begin at one of the first
  components. No other component moves up into the place of one that was dropped.
* **Cropping again** (`Plan.crop_crop`): under the tighter bounds of both, since kinds and texts by ways determine a
  plan.
-/

namespace Wireframe

/-- The tighter of two limits, bound by bound. -/
def Limits.tighter (l m : Limits) : Limits where
  maxComponents := min l.maxComponents m.maxComponents
  maxDepth := min l.maxDepth m.maxDepth
  explainDepth := min l.explainDepth m.explainDepth
  maxPrompt := min l.maxPrompt m.maxPrompt
  maxExplanation := min l.maxExplanation m.maxExplanation

theorem Limits.tighter_comm (l m : Limits) : l.tighter m = m.tighter l := by
  simp only [tighter, Nat.min_comm]

/-- What a way leads to at a position is cropped, under a condition on the way alone, as what the whole way leads to. -/
theorem bind_ite_map {α β γ : Type} (x : Option α) (f : α → Option β) (g : β → γ) (within : Prop) [Decidable within] :
    (x.bind fun a => if within then (f a).map g else none) = if within then (x.bind f).map g else none := by
  split
  · exact (Option.map_bind ..).symm
  · exact Option.bind_fun_none x

namespace Component

variable {maxDepth : Nat}

theorem cropAt_of_le (hmax : maxDepth ≠ Limits.greatestCount) {depth : Nat} (h : depth ≤ maxDepth) (c : Component) :
    cropAt depth maxDepth c = some (crop (maxDepth - depth) c) := by
  rw [cropAt, if_neg (Nat.not_lt.mpr h), if_neg hmax]

/-- **Cropping by depths.** What a component holds stands one level deeper than the component. -/
theorem cropAt_eq (hmax : maxDepth ≠ Limits.greatestCount) (depth : Nat) (c : Component) : cropAt depth maxDepth c =
    if maxDepth < depth then none
    else some { c with children := c.children.filterMap (cropAt (depth + 1) maxDepth) } := by
  split
  · next hdeep => rw [cropAt, if_pos hdeep]
  · next hdeep =>
    rw [cropAt_of_le hmax (Nat.not_lt.mp hdeep)]
    cases hlevels : maxDepth - depth with
    | zero =>
      -- one level deeper is too deep for all that the component holds
      have hdrop : cropAt (depth + 1) maxDepth = fun _ => none := funext fun d => by
        rw [cropAt, if_pos (by omega)]
      rw [hdrop, List.filterMap_none, crop]
    | succ n =>
      have hkeep : cropAt (depth + 1) maxDepth = some ∘ crop n := funext fun d => by
        have hleft : maxDepth - (depth + 1) = n := by omega
        rw [cropAt_of_le hmax (by omega), hleft, Function.comp_apply]
      rw [hkeep, List.filterMap_eq_map, crop]

@[simp] theorem own_crop (levels : Nat) (c : Component) : (crop levels c).own = c.own := by
  cases levels <;> rfl

/-- A way into a cropped component leads to a cropped component, unless it is too long. -/
theorem follow?_crop (levels : Nat) (w : Way) (c : Component) : follow? w (crop levels c) =
    if w.length ≤ levels then (follow? w c).map (crop (levels - w.length)) else none := by
  induction w generalizing levels c with
  | nil => simp [follow?]
  | cons i w ih =>
    cases levels with
    | zero => simp [follow?, crop]
    | succ n =>
      have hinside : follow? (i :: w) (crop (n + 1) c) = c.children[i]?.bind fun d => follow? w (crop n d) := by
        rw [follow?, crop, List.getElem?_map, Option.bind_map]
        rfl
      rw [hinside, follow?, List.length_cons, Nat.add_sub_add_right]
      simp only [ih, Nat.add_le_add_iff_right]
      exact bind_ite_map ..

end Component

namespace Plan

/-- The first components of a plan stand at depth zero. -/
theorem components_crop {l : Limits} (hmax : l.maxDepth ≠ Limits.greatestCount) (p : Plan) :
    (p.crop l).components = (p.components.take l.maxComponents).filterMap (Component.cropAt 0 l.maxDepth) := by
  have hkeep : Component.cropAt 0 l.maxDepth = some ∘ Component.crop l.maxDepth :=
    funext (Component.cropAt_of_le hmax (Nat.zero_le _))
  rw [hkeep, List.filterMap_eq_map]
  rfl

/-- A way into a cropped plan leads to a cropped component, if it begins early enough and is not too long. -/
theorem at?_crop (p : Plan) (l : Limits) (i : Nat) (w : Way) : (p.crop l).at? (i :: w) =
    if i < l.maxComponents ∧ w.length ≤ l.maxDepth then
      (p.at? (i :: w)).map (Component.crop (l.maxDepth - w.length))
    else none := by
  have htop : (p.crop l).at? (i :: w) =
      (p.components.take l.maxComponents)[i]?.bind fun c => Component.follow? w (c.crop l.maxDepth) := by
    rw [at?, crop, List.getElem?_map, Option.bind_map]
    rfl
  rw [htop, List.getElem?_take, at?, ite_and]
  split
  · simp only [Component.follow?_crop]
    exact bind_ite_map ..
  · rfl

/-- A way within the bounds leads to the same kind and texts as before, and one beyond them leads nowhere. -/
theorem map_own_at?_crop (p : Plan) (l : Limits) (i : Nat) (w : Way) : ((p.crop l).at? (i :: w)).map Component.own =
    if i < l.maxComponents ∧ w.length ≤ l.maxDepth then (p.at? (i :: w)).map Component.own else none := by
  have hown : Component.own ∘ Component.crop (l.maxDepth - w.length) = Component.own :=
    funext (Component.own_crop _)
  rw [at?_crop]
  split
  · rw [Option.map_map, hown]
  · rfl

/-- Cropping twice is cropping once, under the tighter bounds. -/
theorem crop_crop (p : Plan) (l m : Limits) : (p.crop l).crop m = p.crop (l.tighter m) := by
  refine eq_of_at? rfl fun v => ?_
  cases v with
  | nil => rfl
  | cons i w =>
    rw [map_own_at?_crop, map_own_at?_crop, map_own_at?_crop, ← ite_and]
    refine if_congr ?_ rfl rfl
    simp only [Limits.tighter, Nat.lt_min, Nat.le_min]
    exact ⟨fun ⟨⟨hi, hw⟩, hi', hw'⟩ => ⟨⟨hi', hi⟩, hw', hw⟩, fun ⟨⟨hi, hi'⟩, hw, hw'⟩ => ⟨⟨hi', hw'⟩, hi, hw⟩⟩

/-- **Cropping keeps exactly the nodes within the bounds.** A way `i :: w` leads to a component of a cropped plan when
it leads to one of the plan, the component at the top is within the width, and the way goes no deeper than the depth;
the component has the kind and the texts that it had. The layout stays. So cropping again, before or after, is cropping
under the tighter bounds of both. -/
theorem crop_keeps_exactly (p : Plan) (l : Limits) :
    (p.crop l).layout = p.layout ∧
    (∀ i w, ((p.crop l).at? (i :: w)).isSome ↔
      (p.at? (i :: w)).isSome ∧ i < l.maxComponents ∧ w.length ≤ l.maxDepth) ∧
    (∀ v c, (p.crop l).at? v = some c → ∃ d, p.at? v = some d ∧ c.kind = d.kind ∧ c.props = d.props) ∧
    ∀ m, (p.crop l).crop m = p.crop (l.tighter m) ∧ (p.crop m).crop l = p.crop (l.tighter m) := by
  refine ⟨rfl, fun i w => ?_, fun v c hc => ?_, fun m => ⟨crop_crop p l m, ?_⟩⟩
  · rw [at?_crop]
    split
    · next h => rw [Option.isSome_map, and_iff_left h]
    · next h => simp [h]
  · cases v with
    | nil => cases hc
    | cons i w =>
      have hown := map_own_at?_crop p l i w
      rw [hc] at hown
      split at hown
      · obtain ⟨d, hd, hsame⟩ := Option.map_eq_some_iff.mp hown.symm
        obtain ⟨hk, hp⟩ := Prod.mk.inj hsame
        exact ⟨d, hd, hk.symm, hp.symm⟩
      · cases hown
  · rw [crop_crop, Limits.tighter_comm]

/-- A card that holds a modal with a button in it, and an input; another button stands after the card. -/
def layered : Plan := ⟨"a", [.card "A" [⟨.modal, .empty, [.button "B"]⟩, .input "C"], .button "D"]⟩

theorem crop_keeps_exactly_layered :
    (∃ d, layered.at? [0, 1] = some d ∧ (Component.input "C").kind = d.kind ∧
      (Component.input "C").props = d.props) ∧
    ((layered.crop { maxComponents := 1, maxDepth := 1 }).at? [0, 0]).isSome ∧
    ¬ ((layered.crop { maxComponents := 1, maxDepth := 1 }).at? [0, 0, 0]).isSome ∧
    ¬ ((layered.crop { maxComponents := 1, maxDepth := 1 }).at? [1]).isSome ∧
    (layered.crop { maxComponents := 1 }).crop { maxDepth := 1 } =
      layered.crop { maxComponents := 1, maxDepth := 1 } := by
  obtain ⟨_, hways, hsame, _⟩ := crop_keeps_exactly layered { maxComponents := 1, maxDepth := 1 }
  refine ⟨hsame [0, 1] (.input "C") rfl, (hways 0 [0]).mpr (by decide), ?_, ?_, ?_⟩
  · rw [hways]
    decide
  · rw [hways]
    decide
  · exact ((crop_keeps_exactly layered { maxComponents := 1 }).2.2.2 { maxDepth := 1 }).1

end Plan

end Wireframe
