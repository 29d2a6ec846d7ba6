import Wireframe.Proofs.Generators

/-!
# The lines of an explanation

An explanation is a text, and prompts, layouts and labels stand in it as they are.

* **Line feeds** (`Place.not_mem_line`, `Plan.not_mem_explanationHead`): a line has none of its own, only those of the
  texts that stand in it.
* **Lines** (`Plan.explanation_by_lines`): an explanation has three lines and one for each told place exactly when no
  text in it has a line feed; a label that has one looks like another component (`Plan.line_forged`).
-/

namespace Wireframe

/-- A place has a line without line feeds when its component has no label with one. -/
theorem Place.not_mem_line {x : Place} : '\n' ∉ x.line ↔ ∀ s, x.component.label? = some s → '\n' ∉ s.toList := by
  have hkind : '\n' ∉ x.component.kind.name.toList := by cases x.component.kind <;> decide
  have hline : '\n' ∉ x.line ↔ '\n' ∉ (x.component.label?.getD "N/A").toList := by
    simp [line, Component.outlineLine, hkind]
  rw [hline]
  cases x.component.label? with
  | none => exact ⟨fun _ => nofun, fun _ => by decide⟩
  | some s => simp

namespace Plan

variable {prompt text : String} {p : Plan} {l : Limits}

theorem explanationHead_ne_nil : explanationHead prompt p ≠ [] := List.cons_ne_nil _ _

/-- The lines before those of components have no line feeds when the prompt and the layout have none. -/
theorem not_mem_explanationHead : (∀ line ∈ explanationHead prompt p, '\n' ∉ line) ↔
    '\n' ∉ prompt.toList ∧ '\n' ∉ p.layout.toList := by
  simp [explanationHead]

/-- **An explanation by its lines.** Between its line feeds stand the parts of three lines and of one line for each told
place, in this order. The lines themselves stand there exactly when neither the prompt nor the layout nor the label of a
told component has a line feed. -/
theorem explanation_by_lines (h : explain prompt p l = .ok text) :
    Text.splitOn '\n' text.toList =
      (explanationHead prompt p ++ (p.told l).map Place.line).flatMap (Text.splitOn '\n') ∧
    (Text.splitOn '\n' text.toList = explanationHead prompt p ++ (p.told l).map Place.line ↔
      '\n' ∉ prompt.toList ∧ '\n' ∉ p.layout.toList ∧
        ∀ x ∈ p.told l, ∀ s, x.component.label? = some s → '\n' ∉ s.toList) := by
  have hne : explanationHead prompt p ++ (p.told l).map Place.line ≠ [] :=
    List.append_ne_nil_of_left_ne_nil explanationHead_ne_nil _
  rw [toList_of_explain_ok h]
  refine ⟨Text.splitOn_joinWith_eq_flatMap '\n' hne, ?_⟩
  rw [Text.splitOn_joinWith_iff hne, List.forall_mem_append, not_mem_explanationHead, List.forall_mem_map, and_assoc]
  simp only [Place.not_mem_line]

/-- A card whose label has no line feed, and that holds a button whose label has one. -/
def hidden : Plan := ⟨"a", [.card "Top" [.button "Go\n- Card: Forged"]]⟩

/-- Below the depth of an explanation a line feed does no harm. -/
theorem explanation_by_lines_hidden :
    explain "x" hidden { explainDepth := 0 } = .ok "User intent: \"x\"\nLayout: a\nComponents:\n- Card: Top" ∧
    Text.splitOn '\n' "User intent: \"x\"\nLayout: a\nComponents:\n- Card: Top".toList =
      explanationHead "x" hidden ++ (hidden.told { explainDepth := 0 }).map Place.line := by
  have hexplain : explain "x" hidden { explainDepth := 0 } =
      .ok "User intent: \"x\"\nLayout: a\nComponents:\n- Card: Top" := rfl
  refine ⟨hexplain, (explanation_by_lines hexplain).2.mpr ⟨by decide, by decide, fun x hx s hs => ?_⟩⟩
  obtain rfl : x = ⟨[], .card "Top" [.button "Go\n- Card: Forged"]⟩ := List.mem_singleton.mp hx
  cases hs
  decide

/-- A button whose label looks like a line of its own. -/
def forging : Plan := ⟨"a", [.button "Go\n- Card: Forged"]⟩

/-- A button with a line feed in its label is explained as a button and a card. -/
theorem line_forged : ∃ text, explain "x" forging {} = .ok text ∧
    explain "x" ⟨"a", [.button "Go", .card "Forged"]⟩ {} = .ok text ∧
    Text.splitOn '\n' text.toList ≠ explanationHead "x" forging ++ (forging.told {}).map Place.line := by
  refine ⟨"User intent: \"x\"\nLayout: a\nComponents:\n- Button: Go\n- Card: Forged", rfl, rfl, fun h => ?_⟩
  -- three lines and one for the button are not the five that are there
  exact absurd (congrArg List.length h) (by decide)

end Plan

end Wireframe
