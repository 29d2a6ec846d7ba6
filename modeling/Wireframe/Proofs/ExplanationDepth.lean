import Wireframe.Proofs.Cropping
import Wireframe.Proofs.Generators

/-!
# How deep an explanation goes

An explanation stops at a depth, and so does cropping. The two walks cut a plan at the same level.

* **One component** (`Component.outline_crop`): the lines of a cropped component are the lines down to the cut, however
  far the outline would go on.
* **Plans** (`Plan.explanationText_crop`): so the text is the same, and with it its length.
* **Plans from the pipeline** (`Plan.Canonical.told_eq_places`): a plan that keeps its limits has no place below their
  depth, so an explanation that goes as deep leaves nothing out.
-/

namespace Wireframe

namespace Component

theorem outlineLine_crop (levels depth : Nat) (c : Component) :
    outlineLine depth (crop levels c) = outlineLine depth c := by
  cases levels <;> rfl

/-- **Cutting first.** An outline that goes at least as deep as a component was cropped stops where the component was
cut. -/
theorem outline_crop {cut levels : Nat} (h : cut ≤ levels) (depth : Nat) (c : Component) :
    outline levels depth (crop cut c) = outline cut depth c := by
  induction cut generalizing levels depth c with
  | zero => cases levels <;> rfl
  | succ cut ih =>
    obtain ⟨levels, rfl⟩ : ∃ n, levels = n + 1 := Nat.exists_eq_add_one.mpr (Nat.zero_lt_of_lt h)
    have hinside : (crop (cut + 1) c).children.flatMap (outline levels (depth + 1)) =
        c.children.flatMap (outline cut (depth + 1)) := by
      rw [crop, List.flatMap_map]
      exact List.flatMap_congr fun d _ => ih (Nat.le_of_succ_le_succ h) (depth + 1) d
    rw [outline, outline, outlineLine_crop, hinside]

end Component

namespace Plan

variable {p : Plan} {l m : Limits}

/-- Cropped at the depth of an explanation, a plan has the same explanation to any greater depth. -/
theorem explanationText_crop {depth : Nat} (hcut : m.maxDepth = l.explainDepth)
    (hwidth : p.components.length ≤ m.maxComponents) (hdepth : l.explainDepth ≤ depth) (prompt : String) :
    explanationText prompt (p.crop m) { l with explainDepth := depth } = explanationText prompt p l := by
  have hlines : (p.crop m).components.flatMap (Component.outline depth 0) =
      p.components.flatMap (Component.outline l.explainDepth 0) := by
    rw [crop, List.take_of_length_le hwidth, List.flatMap_map]
    refine List.flatMap_congr fun c _ => ?_
    rw [hcut, Component.outline_crop hdepth]
  rw [explanationText, explanationText, explanationLines, explanationLines, hlines]
  rfl

/-- An explanation that goes as deep as a plan may be tells of every place in it. -/
theorem Canonical.told_eq_places (h : Canonical m p) (hdepth : m.maxDepth ≤ l.explainDepth) : p.told l = p.places := by
  refine List.filter_eq_self.mpr fun x hx => decide_eq_true ?_
  exact Nat.le_trans (h.depth x.around x.component (mem_places_iff.mp hx)) hdepth

/-- The explanation that leaves out nothing of a plan. -/
def wholeExplanation (prompt : String) (p : Plan) : List Char :=
  Text.joinWith ['\n'] (explanationHead prompt p ++ p.places.map Place.line)

/-- **An explanation stops where cropping cuts.** The result for a plan, text or error, is the result for the plan
cropped at the depth of the explanation and not in its width, whatever greater depth is allowed then. So a plan that was
taken in under limits no deeper than the explanation is explained as a whole, unless that is too long. -/
theorem explain_cropped :
    (∀ (prompt : String) (p : Plan) (l m : Limits) (depth : Nat), m.maxDepth = l.explainDepth →
      p.components.length ≤ m.maxComponents → l.explainDepth ≤ depth →
      explain prompt p l = explain prompt (p.crop m) { l with explainDepth := depth }) ∧
    ∀ (prompt : String) (v : Json) (p : Plan) (l m : Limits), m.maxDepth ≤ l.explainDepth →
      accept v m = .ok p ∨ recover v m = .ok p →
      explain prompt p l =
        if l.maxExplanation < (wholeExplanation prompt p).length then
          .error (.explanationTooLong (wholeExplanation prompt p).length l.maxExplanation)
        else .ok (String.ofList (wholeExplanation prompt p)) := by
  constructor
  · intro prompt p l m depth hcut hwidth hdepth
    rw [explain, explain, explanationText_crop hcut hwidth hdepth]
  · intro prompt v p l m hdepth htaken
    have hcanonical : Canonical m p := by
      have hp : p = restore v m := htaken.elim eq_restore_of_accept eq_restore_of_recover
      rw [hp]
      exact canonical_restore v m
    have htext : explanationText prompt p l = wholeExplanation prompt p := by
      have htold := hcanonical.told_eq_places hdepth
      rw [told] at htold
      rw [explanationText, explanationLines_eq, htold, wholeExplanation]
    rw [explain, htext]

/-- The button in the modal of a card is below an explanation to depth one, with which what is left of the plan is
explained to any depth, or turned down for the same length. Of seven components inside each other four are taken in, and
all four are explained. -/
theorem explain_cropped_layered :
    explain "x" (layered.crop { maxDepth := 1 }) { explainDepth := 9 } =
      .ok "User intent: \"x\"\nLayout: a\nComponents:\n- Card: A\n  - Modal: N/A\n  - Input: C\n- Button: D" ∧
    explain "x" (layered.crop { maxDepth := 1 }) { explainDepth := 9, maxExplanation := 10 } =
      .error (.explanationTooLong 88 10) ∧
    accept nested {} = .ok (restore nested {}) ∧
    explain "x" (restore nested {}) {} = .ok (String.ofList (wholeExplanation "x" (restore nested {}))) := by
  obtain ⟨hcropped, hwhole⟩ := explain_cropped
  have htext : explain "x" layered { explainDepth := 1 } =
      .ok "User intent: \"x\"\nLayout: a\nComponents:\n- Card: A\n  - Modal: N/A\n  - Input: C\n- Button: D" := rfl
  have herror : explain "x" layered { explainDepth := 1, maxExplanation := 10 } =
      .error (.explanationTooLong 88 10) := rfl
  have haccept : accept nested {} = .ok (restore nested {}) := rfl
  refine ⟨?_, ?_, haccept, ?_⟩
  · exact (hcropped "x" layered { explainDepth := 1 } { maxDepth := 1 } 9 rfl (by decide) (by decide)).symm.trans htext
  · exact (hcropped "x" layered { explainDepth := 1, maxExplanation := 10 } { maxDepth := 1 } 9 rfl (by decide)
      (by decide)).symm.trans herror
  · rw [hwhole "x" nested (restore nested {}) {} {} (by decide) (.inl haccept), if_neg (by decide)]

end Plan

end Wireframe
