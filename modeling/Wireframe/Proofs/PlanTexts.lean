import Wireframe.Proofs.Pretty

/-!
# Texts of plans

A plan is written compactly, prettily, or with its members in key order, and is read back from each of these texts.

* **Canonical values** (`Json.distinct_canon`, `Json.readable_canon`): the keys of a canonical value differ, and a value
  stays readable when it is brought into key order.
* **Decoding in key order** (`Component.decode_of_holds_toValue`, `Plan.decode_of_holds_toValue`): by induction on
  components, as in the order of a plan's text.
* **Spelled plans** (`Plan.Shallow.read_spelled`): whatever text spells a shallow plan in one of the two orders, with
  gaps around, is decoded as the plan and parsed as its value.
* **The three texts** (`Plan.texts_read_back`).
-/

namespace Wireframe

open Json (Doc Gap)

namespace Json

/-! ## Canonical values -/

mutual

theorem distinct_canon : (v : Json) → v.canon.Distinct
  | .null => by rw [canon]; trivial
  | .bool _ => by rw [canon]; trivial
  | .num _ => by rw [canon]; trivial
  | .str _ => by rw [canon]; trivial
  | .arr vs => by rw [canon]; exact distinctItems_canonItems vs
  | .obj ms => by
    rw [canon]
    refine ⟨(Members.ascending_sort _).nodup_keys, distinctMembers_iff.mpr fun m hm => ?_⟩
    exact distinctMembers_iff.mp (distinctMembers_canonMembers ms) m (Members.mem_of_mem_sort hm)

theorem distinctItems_canonItems : (vs : List Json) → DistinctItems (canonItems vs)
  | [] => trivial
  | v :: vs => ⟨distinct_canon v, distinctItems_canonItems vs⟩

theorem distinctMembers_canonMembers : (ms : List (String × Json)) → DistinctMembers (canonMembers ms)
  | [] => trivial
  | (_, v) :: ms => ⟨distinct_canon v, distinctMembers_canonMembers ms⟩

end

mutual

theorem readable_canon : (v : Json) → ∀ {room : Nat}, v.Readable room → v.canon.Readable room
  | .null, _, _ => by rw [canon]; trivial
  | .bool _, _, _ => by rw [canon]; trivial
  | .num _, _, h => by rw [canon]; exact h
  | .str _, _, _ => by rw [canon]; trivial
  | .arr vs, _, ⟨hroom, h⟩ => by rw [canon]; exact ⟨hroom, readableItems_canonItems vs h⟩
  | .obj ms, _, ⟨hroom, h⟩ => by
    rw [canon]
    refine ⟨hroom, readableMembers_iff.mpr fun m hm => ?_⟩
    exact readableMembers_iff.mp (readableMembers_canonMembers ms h) m (Members.mem_of_mem_sort hm)

theorem readableItems_canonItems : (vs : List Json) → ∀ {room : Nat}, ReadableItems vs room →
    ReadableItems (canonItems vs) room
  | [], _, _ => trivial
  | v :: vs, _, ⟨hv, hvs⟩ => ⟨readable_canon v hv, readableItems_canonItems vs hvs⟩

theorem readableMembers_canonMembers : (ms : List (String × Json)) → ∀ {room : Nat}, ReadableMembers ms room →
    ReadableMembers (canonMembers ms) room
  | [], _, _ => trivial
  | (_, v) :: ms, _, ⟨hv, hms⟩ => ⟨readable_canon v hv, readableMembers_canonMembers ms hms⟩

end

end Json

/-! ## Decoding in key order -/

theorem Component.decode_of_holds_toValue (c : Component) : ∀ d, Doc.Holds c.toValue d → decode d = .ok c := by
  induction c using Component.induct with
  | mk kind props children ih =>
    intro d h
    rw [toValue_eq] at h
    cases h with
    | obj _ stop hes =>
    cases hes with
    | cons _ _ hchildren hes =>
    cases hes with
    | cons _ _ hprops hes =>
    cases hes with
    | cons _ _ hkind hes =>
    cases hes
    rw [decode]
    refine Json.Record.ofEntries_closed (p := ⟨some kind, some props, some children⟩) ?_ rfl
    simp only [entrySources]
    refine Json.Record.readEntries_cons rfl rfl rfl (Json.Record.read_of (decodeList_of_holds ih hchildren)) ?_
    refine Json.Record.readEntries_cons rfl rfl rfl (Json.Record.read_of (Props.decode_of_holds hprops)) ?_
    exact Json.Record.readEntries_cons rfl rfl rfl (Json.Record.read_of (Kind.decode_of_holds hkind)) rfl

namespace Plan

theorem decode_of_holds_toValue (p : Plan) (d : Doc) (h : Doc.Holds p.toValue d) : decode d = .ok p := by
  rw [toValue_eq] at h
  cases h with
  | obj _ stop hes =>
  cases hes with
  | cons _ _ hcomponents hes =>
  cases hes with
  | cons _ _ hlayout hes =>
  cases hes
  have hc := Component.decodeList_of_holds (fun c _ => c.decode_of_holds_toValue) hcomponents
  rw [decode, Json.Record.decode]
  refine Json.Record.ofEntries_closed (p := ⟨some p.layout, some p.components⟩) ?_ rfl
  refine Json.Record.readEntries_cons rfl rfl rfl (Json.Record.read_of hc) ?_
  exact Json.Record.readEntries_cons rfl rfl rfl (Json.Record.read_of (Json.string_of_holds hlayout)) rfl

/-! ## Texts of plans -/

/-- A text that spells a shallow plan, with its members in the order of a plan's text or in key order and with gaps
around, is decoded as the plan and parsed as its value. -/
theorem Shallow.read_spelled {p : Plan} (h : p.Shallow) {v : Json} (hv : v = p.toJson ∨ v = p.toValue) {t : List Char}
    (ht : v.Spells t) {a b : List Char} (ha : Gap a) (hb : Gap b) :
    Json.decodeText decode (String.ofList (a ++ (t ++ b))) = .ok p ∧
      Json.parse (String.ofList (a ++ (t ++ b))) = .ok p.toValue := by
  have hr : p.toJson.Readable 104 := h.readable_toJson (Nat.le_refl _)
  rcases hv with rfl | rfl
  · exact ⟨Json.decodeText_spells p.decode_of_holds ht hr (by decide) ha hb,
      Json.parse_spells ht p.distinct_toJson hr (by decide) ha hb⟩
  · have hr : p.toValue.Readable 104 := Json.readable_canon _ hr
    have hparse := Json.parse_spells ht (Json.distinct_canon _) hr (by decide) ha hb
    rw [canon_toValue] at hparse
    exact ⟨Json.decodeText_spells p.decode_of_holds_toValue ht hr (by decide) ha hb, hparse⟩

/-- **Every text of a plan is read back.** The compact text of a shallow plan, its pretty text and its text in key
order, from which its digest is made, are decoded as the plan again and parsed as its value, whatever characters are in
its layout and its props. -/
theorem texts_read_back {p : Plan} (h : p.Shallow) :
    ∀ text ∈ [p.toJson.compact, p.toJson.pretty, p.toValue.stable],
      Json.decodeText decode text = .ok p ∧ Json.parse text = .ok p.toValue := by
  have hread {v : Json} (hv : v = p.toJson ∨ v = p.toValue) {text : String} (ht : v.Spells text.toList) :
      Json.decodeText decode text = .ok p ∧ Json.parse text = .ok p.toValue := by
    simpa using h.read_spelled hv ht Json.gap_nil Json.gap_nil
  intro text hm
  simp only [List.mem_cons, List.not_mem_nil, or_false] at hm
  rcases hm with rfl | rfl | rfl
  · exact hread (.inl rfl) (Json.spells_compact _)
  · exact hread (.inl rfl) (Json.spells_pretty _)
  · rw [Json.stable, canon_toValue]
    exact hread (.inr rfl) (Json.spells_compact _)

/-- A plan with quotes, a backslash, brackets and control characters in its texts, one of which has an empty key. -/
def awkward : Plan := ⟨"\"a\\\n", [⟨.card, Props.ofList [("title", "\x7d]\x00\x7b"), ("", "é😀")], [.button "\x1f"]⟩]⟩

theorem texts_read_back_awkward : awkward.Shallow ∧
    Json.decodeText decode awkward.toJson.compact = .ok awkward ∧
    Json.parse awkward.toJson.pretty = .ok awkward.toValue ∧
    Json.decodeText decode awkward.toValue.stable = .ok awkward := by
  have hs : awkward.Shallow := by decide
  exact ⟨hs, (texts_read_back hs _ (by simp)).1, (texts_read_back hs _ (by simp)).2,
    (texts_read_back hs _ (by simp)).1⟩

end Plan

end Wireframe
