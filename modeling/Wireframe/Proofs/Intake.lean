import Wireframe.Proofs.Session
import Wireframe.Proofs.TypedValues
import Wireframe.Settings.Basic

/-!
# Taking values in

* **Values that pass** (`Plan.readings_agree`): the checker, the decoder and the salvager agree on what a document is,
  so whether it is decoded and refined, accepted or recovered makes no difference.
* **Widths** (`Plan.kept`, `Plan.isSome_salvage_iff`): a restored plan has the components that name a kind, up to the
  limit (`Plan.length_components_restore`).
* **Failures** (`Plan.recover_of_wide`, `Plan.recover_of_narrow`): a restored plan can only be too wide for the schema,
  and with limits that pass the checks of settings it is not (`Plan.recover_fails_iff_wide`).
-/

namespace Wireframe

namespace Plan

/-! ## Values that pass -/

/-- **Every reading of a value that passes gives the same plan.** The value is decoded as a plan; whatever the limits,
accepting the value gives that plan refined, and recovering it gives the same. -/
theorem readings_agree (v : Json) (h : check v = .ok ()) : ∃ p : Plan, Json.decodeJson decode v = .ok p ∧
    ∀ l, accept v l = .ok (p.refine l) ∧ recover v l = .ok (p.refine l) := by
  obtain ⟨p, hdecode, hsalvage⟩ := exists_decode (check_iff_isPlan.mp h)
  refine ⟨p, hdecode, fun l => ?_⟩
  have hrestore : restore v l = p.refine l := by rw [refine, restore, restore, hsalvage]
  exact ⟨accept_eq_ok_iff.mpr ⟨h, hrestore.symm⟩,
    recover_eq_ok_iff.mpr ⟨(narrow_restore h l).check, hrestore.symm⟩⟩

/-- A document with members in any order, one of them free, and a card that has an input inside but no props. -/
def looseDocument : Json :=
  .obj [("theme", .null), ("layout", .str "a"),
    ("components", .arr [.obj [("children", .arr [.obj [("type", .str "Input")]]), ("type", .str "Card")]])]

theorem readings_agree_loose : check looseDocument = .ok () ∧
    ∃ p : Plan, Json.decodeJson decode looseDocument = .ok p ∧
      ∀ l, accept looseDocument l = .ok (p.refine l) ∧ recover looseDocument l = .ok (p.refine l) :=
  ⟨rfl, readings_agree looseDocument rfl⟩

/-! ## Widths -/

/-- The components at the top of a value that are salvaged. -/
def kept (v : Json) : List Json :=
  (((v.get? "components").bind Json.items?).getD []).filter fun x => (Component.salvage x).isSome

/-- A value is salvaged when it names a kind. -/
theorem isSome_salvage_iff {x : Json} :
    (Component.salvage x).isSome ↔ ∃ k : Kind, x.get? "type" = some (.str k.name) := by
  rw [Component.salvage, Component.salvageAt]
  constructor
  · intro h
    split at h
    · cases h
    · next k hk =>
      obtain ⟨s, hs, hk⟩ := Option.bind_eq_some_iff.mp hk
      obtain ⟨w, hw, hs⟩ := Option.bind_eq_some_iff.mp hs
      exact ⟨k, by rw [hw, Json.text?_eq_some_iff.mp hs, Kind.name_of_ofName? hk]⟩
  · rintro ⟨k, hk⟩
    simp [hk, Json.text?]

theorem length_components_salvage (v : Json) : (salvage v).components.length = (kept v).length := by
  rw [salvage, List.length_filterMap_eq_countP, kept, List.countP_eq_length_filter]

/-- A restored plan has the components that are salvaged, up to the limit. -/
theorem length_components_restore (v : Json) (l : Limits) :
    (restore v l).components.length = min l.maxComponents (kept v).length := by
  rw [restore_eq_refine, refine_eq, List.length_map, List.length_take, length_components_salvage]

/-! ## Failures -/

variable {v : Json} {l : Limits}

def tooWide (p : Plan) : Issue :=
  Schema.Finding.toIssue ⟨[.key "components"], .tooMany (.arr (p.components.map Component.toValue))⟩

theorem check_toValue_of_wide {p : Plan} (h : Limits.schemaWidth < p.components.length) :
    check p.toValue = .error (.invalid p.tooWide) := by
  rw [check, Schema.issues, findings_toValue, Schema.checkWidth, List.length_map, if_pos h]
  rfl

theorem recover_of_wide (h : Limits.schemaWidth < min l.maxComponents (kept v).length) :
    recover v l = .error (.invalid (restore v l).tooWide) := by
  rw [recover, check_toValue_of_wide (length_components_restore v l ▸ h)]
  rfl

theorem recover_of_narrow (h : min l.maxComponents (kept v).length ≤ Limits.schemaWidth) :
    recover v l = .ok ((salvage v).complete.crop l) :=
  recover_eq_ok_iff.mpr ⟨check_toValue_iff.mpr (length_components_restore v l ▸ h), rfl⟩

end Plan

namespace Settings

theorem demand_eq_nil_iff {good : Bool} {i : Issue} : demand good i = [] ↔ good = true := by
  cases good <;> simp [demand]

theorem maxComponents_le {s : Settings} (h : s.issues = []) : s.limits.maxComponents ≤ Limits.schemaWidth := by
  simp only [issues, List.append_eq_nil_iff, demand_eq_nil_iff, decide_eq_true_iff] at h
  obtain ⟨⟨⟨⟨_, hwidth⟩, _⟩, _⟩, _⟩ := h
  exact hwidth

end Settings

namespace Plan

/-- **Recovering fails for width only.** The value of a plan passes when the plan has at most 30 components. So,
whatever the value and the limits, recovering fails exactly when more than 30 components are salvaged and within the
limit, and then for that; otherwise it gives the value salvaged, completed and cropped. With settings that have nothing
wrong it never fails. -/
theorem recover_fails_iff_wide :
    (∀ p : Plan, check p.toValue = .ok () ↔ p.components.length ≤ 30) ∧
    (∀ (v : Json) (l : Limits),
      ((∃ e, recover v l = .error e) ↔ 30 < min l.maxComponents (kept v).length) ∧
      (∀ e, recover v l = .error e → e = .invalid (restore v l).tooWide) ∧
      (min l.maxComponents (kept v).length ≤ 30 → recover v l = .ok ((salvage v).complete.crop l))) ∧
    (∀ s : Settings, s.issues = [] →
      ∀ v, recover v s.limits = .ok ((salvage v).complete.crop s.limits)) := by
  refine ⟨fun p => check_toValue_iff, fun v l => ⟨⟨?_, fun h => ⟨_, recover_of_wide h⟩⟩, ?_, recover_of_narrow⟩, ?_⟩
  · rintro ⟨e, he⟩
    by_contra hw
    rw [recover_of_narrow (Nat.le_of_not_lt hw)] at he
    cases he
  · intro e he
    by_cases hw : Limits.schemaWidth < min l.maxComponents (kept v).length
    · rw [recover_of_wide hw] at he
      exact (Except.error.inj he).symm
    · rw [recover_of_narrow (Nat.le_of_not_lt hw)] at he
      cases he
  · intro s hs v
    exact recover_of_narrow (Nat.le_trans (Nat.min_le_left _ _) (Settings.maxComponents_le hs))

/-- A value with 31 cards and something else between them. -/
def manyCards : Json :=
  .obj [("components", .arr (List.replicate 15 (.obj [("type", .str "Card")]) ++ .null ::
    List.replicate 16 (.obj [("type", .str "Card")])))]

/-- Many cards are too many when 31 are allowed, and are cut to 30 or to the usual number otherwise. -/
theorem recover_fails_iff_wide_cards :
    recover manyCards { maxComponents := 31 } =
      .error (.invalid (restore manyCards { maxComponents := 31 }).tooWide) ∧
    recover manyCards { maxComponents := 30 } = .ok ((salvage manyCards).complete.crop { maxComponents := 30 }) ∧
    ({} : Settings).issues = [] ∧ recover manyCards {} = .ok ((salvage manyCards).complete.crop {}) := by
  obtain ⟨hfails, hwhy, _⟩ := recover_fails_iff_wide.2.1 manyCards { maxComponents := 31 }
  obtain ⟨e, he⟩ := hfails.mpr (by decide)
  have hs : ({} : Settings).issues = [] := by decide
  exact ⟨hwhy e he ▸ he, (recover_fails_iff_wide.2.1 manyCards { maxComponents := 30 }).2.2 (by decide), hs,
    recover_fails_iff_wide.2.2 {} hs manyCards⟩

end Plan

end Wireframe
