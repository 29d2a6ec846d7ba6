import Wireframe.Proofs.HistoryLines
import Wireframe.Proofs.Values

/-!
# Values from their texts

A text that spells a value is parsed as the canonical form of that value, and the pretty text is one that does.

* **Pretty texts** (`Json.spells_pretty`): every line break of the pretty text is a gap between parts.
* **Values of documents** (`Json.value_of_holds`): a document that holds a value has the canonical form as its own
  value, where the keys of each object differ (`Json.Distinct`).
* **Whole texts** (`Json.parse_spells`, `Json.parse_pretty`) and the values of **plans** (`Plan.distinct_toJson`).
-/

namespace Wireframe

namespace Json

/-! ## Pretty texts -/

/-- A line break and the blanks after it make a gap. -/
theorem gap_newLine (level : Nat) : Gap (newLine level) := by
  refine List.dropWhile_eq_nil_iff.mpr fun c hc => ?_
  rcases List.mem_cons.mp hc with rfl | hc
  · decide
  · obtain rfl := List.eq_of_mem_replicate hc
    decide

theorem gap_blank : Gap [' '] := rfl

mutual

/-- The pretty text of a value spells it, at any level. -/
theorem spells_prettyAt : (v : Json) → ∀ level, v.Spells (v.prettyAt level)
  | .null, _ => rfl
  | .bool true, _ => rfl
  | .bool false, _ => rfl
  | .num _, _ => rfl
  | .str _, _ => rfl
  | .arr [], _ => ⟨[], [']'], gap_nil, rfl, rfl⟩
  | .arr (v :: vs), level => by
    obtain ⟨u, hu, he⟩ := spellsItems_prettyItems (v :: vs) (by simp) (level + 1) (gap_newLine level)
    refine ⟨newLine (level + 1), u, gap_newLine _, hu, ?_⟩
    rw [prettyAt, List.cons_append, List.cons_append, List.append_assoc, he]
  | .obj [], _ => ⟨[], ['}'], gap_nil, rfl, rfl⟩
  | .obj (m :: ms), level => by
    obtain ⟨u, hu, he⟩ := spellsMembers_prettyMembers (m :: ms) (by simp) (level + 1) (gap_newLine level)
    refine ⟨newLine (level + 1), u, gap_newLine _, hu, ?_⟩
    rw [prettyAt, List.cons_append, List.cons_append, List.append_assoc, he]

theorem spellsItems_prettyItems : (vs : List Json) → vs ≠ [] → ∀ (level : Nat) {a : List Char}, Gap a →
    ∃ u, SpellsItems vs u ∧ prettyItems level vs ++ (a ++ [']']) = newLine level ++ u
  | [], hne, _, _, _ => absurd rfl hne
  | [v], _, level, a, ha => ⟨_, ⟨v.prettyAt level, a, spells_prettyAt v level, ha, rfl⟩, by
      rw [prettyItems, List.append_assoc]⟩
  | v :: w :: r, _, level, a, ha => by
    -- the line break before the items that are left is the gap after the comma
    obtain ⟨u, hu, he⟩ := spellsItems_prettyItems (w :: r) (by simp) level ha
    have hv := spells_prettyAt v level
    refine ⟨_, ⟨v.prettyAt level, [], newLine level, u, hv, gap_nil, gap_newLine level, hu, rfl⟩, ?_⟩
    rw [prettyItems]
    simp [he]

theorem spellsMembers_prettyMembers : (ms : List (String × Json)) → ms ≠ [] → ∀ (level : Nat) {a : List Char}, Gap a →
    ∃ u, SpellsMembers ms u ∧ prettyMembers level ms ++ (a ++ ['}']) = newLine level ++ u
  | [], hne, _, _, _ => absurd rfl hne
  | [(k, v)], _, level, a, ha => by
    have hv := spells_prettyAt v level
    exact ⟨_, ⟨v.prettyAt level, [], [' '], a, hv, gap_nil, gap_blank, ha, rfl⟩, by simp [prettyMembers]⟩
  | (k, v) :: m :: r, _, level, a, ha => by
    obtain ⟨u, hu, he⟩ := spellsMembers_prettyMembers (m :: r) (by simp) level ha
    have hv := spells_prettyAt v level
    have hb := gap_newLine level
    refine ⟨_, ⟨v.prettyAt level, [], [' '], [], newLine level, u, hv, gap_nil, gap_blank, gap_nil, hb, hu, rfl⟩, ?_⟩
    rw [prettyMembers]
    simp [he]

end

theorem spells_pretty (v : Json) : v.Spells v.pretty.toList := by
  rw [pretty, String.toList_ofList]
  exact spells_prettyAt v 0

/-! ## Values of documents -/

mutual

/-- A value in which the keys of each object differ. -/
def Distinct : Json → Prop
  | .null => True
  | .bool _ => True
  | .num _ => True
  | .str _ => True
  | .arr vs => DistinctItems vs
  | .obj ms => (ms.map Prod.fst).Nodup ∧ DistinctMembers ms

def DistinctItems : List Json → Prop
  | [] => True
  | v :: vs => v.Distinct ∧ DistinctItems vs

def DistinctMembers : List (String × Json) → Prop
  | [] => True
  | (_, v) :: ms => v.Distinct ∧ DistinctMembers ms

end

theorem distinctItems_iff {vs : List Json} : DistinctItems vs ↔ ∀ v ∈ vs, v.Distinct := by
  induction vs with
  | nil => simp [DistinctItems]
  | cons v vs ih => rw [DistinctItems, ih, List.forall_mem_cons]

theorem distinctMembers_iff {ms : List (String × Json)} : DistinctMembers ms ↔ ∀ m ∈ ms, m.2.Distinct := by
  induction ms with
  | nil => simp [DistinctMembers]
  | cons m ms ih => rw [DistinctMembers, ih, List.forall_mem_cons]

mutual

theorem value_of_holds : (v : Json) → v.Distinct → ∀ {d : Doc}, Doc.Holds v d → d.value = .ok v.canon
  | .null, _, _, .null _ _ => by rw [canon]; rfl
  | .bool _, _, _, .bool _ _ _ => by rw [canon]; rfl
  | .num _, _, _, .num _ _ _ => by rw [canon]; rfl
  | .str _, _, _, .str _ _ _ => by rw [canon]; rfl
  | .arr vs, hv, _, .arr _ _ hds => by
    rw [Doc.value, values_of_holds vs hv hds, canon]
    rfl
  | .obj ms, ⟨hkeys, hv⟩, _, .obj _ _ hes => by
    have hcanon : ((canonMembers ms).map Prod.fst).Nodup := by
      rw [canonMembers_eq_map, List.map_map]
      exact hkeys
    rw [Doc.value, memberValues_of_holds ms hv hes, canon, ← Members.ofList_eq_sort hcanon]
    rfl

theorem values_of_holds : (vs : List Json) → DistinctItems vs → ∀ {ds : List Doc}, Doc.HoldsItems vs ds →
    Doc.values ds = .ok (canonItems vs)
  | [], _, _, .nil => rfl
  | v :: vs, ⟨hv, hvs⟩, _, .cons hd hds => by
    rw [Doc.values, value_of_holds v hv hd, values_of_holds vs hvs hds]
    rfl

theorem memberValues_of_holds : (ms : List (String × Json)) → DistinctMembers ms → ∀ {es : List (Entry Doc)},
    Doc.HoldsMembers ms es → Doc.memberValues es = .ok (canonMembers ms)
  | [], _, _, .nil => rfl
  | (k, v) :: ms, ⟨hv, hms⟩, _, .cons _ _ hd hes => by
    rw [Doc.memberValues, value_of_holds v hv hd, memberValues_of_holds ms hms hes]
    rfl

end

/-! ## Whole texts -/

variable {v : Json} {room : Nat} {a b : List Char}

/-- A text that spells a value, with gaps around, is parsed as the canonical form of the value. -/
theorem parse_spells {t : List Char} (ht : v.Spells t) (hd : v.Distinct) (hr : v.Readable room)
    (hroom : room < Reader.depthLimit) (ha : Gap a) (hb : Gap b) :
    parse (String.ofList (a ++ (t ++ b))) = .ok v.canon := by
  have hread : ∀ d, Doc.Holds v d → anything d = .ok v.canon := fun d h => by
    rw [anything, value_of_holds v hd h]
    rfl
  exact decodeText_spells hread ht hr hroom ha hb

theorem parse_pretty (hd : v.Distinct) (hr : v.Readable room) (hroom : room < Reader.depthLimit) :
    parse v.pretty = .ok v.canon := by
  simpa using parse_spells (spells_pretty v) hd hr hroom gap_nil gap_nil

end Json

/-! ## Plans -/

theorem Props.distinct_toJson (p : Props) : p.toJson.Distinct := by
  refine ⟨?_, Json.distinctMembers_iff.mpr ?_⟩
  · rw [List.map_map]
    exact p.ascending.nodup_keys
  · exact List.forall_mem_map.mpr fun _ _ => trivial

namespace Component

theorem distinctItems_toJsonAll {cs : List Component} (h : ∀ c ∈ cs, c.toJson.Distinct) :
    Json.DistinctItems (toJsonAll cs) := by
  rw [toJsonAll_eq_map]
  exact Json.distinctItems_iff.mpr (List.forall_mem_map.mpr h)

theorem distinct_toJson (c : Component) : c.toJson.Distinct := by
  induction c using Component.induct with
  | mk kind props children ih =>
    exact ⟨by simp, trivial, props.distinct_toJson, distinctItems_toJsonAll ih, trivial⟩

end Component

namespace Plan

theorem distinct_toJson (p : Plan) : p.toJson.Distinct :=
  ⟨by simp, trivial, Component.distinctItems_toJsonAll fun c _ => c.distinct_toJson, trivial⟩

end Plan

end Wireframe
