import Wireframe.Proofs.Decoding
import Wireframe.Proofs.Grammar
import Wireframe.Proofs.Refinement

/-!
# Typed plans from values in memory

Every plan document is read as a typed plan, and salvaging the document is salvaging that plan.

* **Values as documents** (`Json.Doc.holds_ofJson`, `Json.Doc.skip_ofJson`): a value in memory is a document without
  faults, so that it can be read and passed over.
* **Records** (`Json.Record.readEntries_canon`, `Json.Record.readEntries_named`): members that a record does not name
  are passed over, and those that it names stand in key order; each is read by its field, and one that is missing
  changes nothing.
* **Components** (`Component.decode_canon`, `Component.exists_decode`): by induction on the grammar; what the decoder
  reads from the canonical value is what the salvager retains of the value itself.
* **Plans** (`Plan.exists_decode`).
-/

namespace Wireframe

open Json (Doc Entry)

namespace Json

/-! ## Values as documents -/

namespace Doc

mutual

theorem holds_ofJson : (v : Json) → Holds v (ofJson v)
  | .null => .null none none
  | .bool b => .bool none none b
  | .num n => .num none none n
  | .str s => .str none none s
  | .arr xs => .arr none none (holdsItems_ofItems xs)
  | .obj ms => .obj none none (holdsMembers_ofMembers ms)

theorem holdsItems_ofItems : (vs : List Json) → HoldsItems vs (ofItems vs)
  | [] => .nil
  | v :: vs => .cons (holds_ofJson v) (holdsItems_ofItems vs)

theorem holdsMembers_ofMembers : (ms : List (String × Json)) → HoldsMembers ms (ofMembers ms)
  | [] => .nil
  | (k, v) :: ms => .cons k none (holds_ofJson v) (holdsMembers_ofMembers ms)

end

mutual

theorem skip_ofJson : (v : Json) → (ofJson v).skip = .ok ()
  | .null => rfl
  | .bool _ => rfl
  | .num _ => rfl
  | .str _ => rfl
  | .arr xs => by
    rw [ofJson, skip, skipAll_ofItems xs]
    rfl
  | .obj ms => by
    rw [ofJson, skip, skipEntries_ofMembers ms]
    rfl

theorem skipAll_ofItems : (vs : List Json) → skipAll (ofItems vs) = .ok ()
  | [] => rfl
  | v :: vs => by
    rw [ofItems, skipAll, skip_ofJson v]
    exact skipAll_ofItems vs

theorem skipEntries_ofMembers : (ms : List (String × Json)) → skipEntries (ofMembers ms) = .ok ()
  | [] => rfl
  | (_, v) :: ms => by
    rw [ofMembers, skipEntries, skip_ofJson v]
    exact skipEntries_ofMembers ms

end

end Doc

/-! ## Records from members -/

/-- Members as entries, whose sources are made from their values. -/
def entriesOf {σ : Type} (g : Json → σ) (ms : List (String × Json)) : List (Entry σ) :=
  ms.map fun m => ⟨.ok m.1, none, g m.2⟩

theorem Doc.ofMembers_eq (ms : List (String × Json)) : ofMembers ms = entriesOf ofJson ms := by
  induction ms with
  | nil => rfl
  | cons m ms ih => rw [ofMembers, ih, entriesOf, entriesOf, List.map_cons]

/-- The members of a value with some names, in the order of the names, as entries of their canonical forms. -/
def entriesNamed {σ : Type} (g : Json → σ) (v : Json) (names : List String) : List (Entry σ) :=
  names.filterMap fun n => (v.get? n).map fun w => ⟨.ok n, none, g w.canon⟩

namespace Record

variable {σ π α : Type} {r : Record σ π α} {doc : σ → Doc} {g : Json → σ} {names : List String} {v : Json}
  {ms : List (String × Json)}

theorem readEntries_filter (hskip : ∀ w, (doc (g w)).skip = .ok ())
    (hnames : ∀ k, k ∈ names ↔ k ∈ r.fields.map Field.name) (p : π) :
    r.readEntries doc p (entriesOf g ms) =
      r.readEntries doc p (entriesOf g (ms.filter fun m => decide (m.1 ∈ names))) := by
  induction ms generalizing p with
  | nil => rfl
  | cons m ms ih =>
    obtain ⟨k, w⟩ := m
    cases hf : r.fields.find? (·.name == k) with
    | none =>
      have hk : k ∉ names := by
        rw [hnames, List.mem_map]
        rintro ⟨f, hm, rfl⟩
        exact List.find?_eq_none.mp hf f hm (beq_self_eq_true _)
      rw [List.filter_cons_of_neg (by simpa using hk), ← ih, entriesOf, List.map_cons, readEntries]
      simp [orFault, hf, hskip, entriesOf, bind, Except.bind]
    | some f =>
      have hk : k ∈ names :=
        (hnames k).mpr (List.mem_map.mpr ⟨f, List.mem_of_find?_eq_some hf, by simpa using List.find?_some hf⟩)
      rw [List.filter_cons_of_pos (by simpa using hk), entriesOf, List.map_cons, entriesOf, List.map_cons,
        readEntries, readEntries]
      simp only [orFault, hf, bind, Except.bind]
      split
      · rfl
      · split
        · rfl
        · exact ih _

/-- From a canonical object a record reads the members with the names of its fields, in the order of their keys. -/
theorem readEntries_canon (names : List String) (hv : v.canon = .obj ms) (doc : σ → Doc)
    (hskip : ∀ w, (doc (g w)).skip = .ok ()) (hnames : names.Perm (r.fields.map Field.name))
    (hsorted : names.Pairwise (· < ·)) (p : π) :
    r.readEntries doc p (entriesOf g ms) = r.readEntries doc p (entriesNamed g v names) := by
  have hentries : entriesOf g (ms.filter fun m => decide (m.1 ∈ names)) = entriesNamed g v names := by
    rw [Members.filter_named (ascending_of_canon_eq hv) hsorted, entriesOf, entriesNamed, List.map_filterMap]
    simp only [lookup_of_canon_eq hv, Option.map_map, Function.comp_def]
  rw [readEntries_filter hskip (fun _ => hnames.mem_iff), hentries]

/-- A member with a name is read by the field of that name, if there is one at all. -/
theorem readEntries_named {n : String} {f : Field σ π} {p q z : π} (hf : r.fields.find? (·.name == n) = some f)
    (hp : f.filled p = false) (hnone : v.get? n = none → q = p)
    (hsome : ∀ w, v.get? n = some w → f.read p (g w.canon) = .ok q)
    (hrest : r.readEntries doc q (entriesNamed g v names) = .ok z) :
    r.readEntries doc p (entriesNamed g v (n :: names)) = .ok z := by
  cases hl : v.get? n with
  | none =>
    rw [entriesNamed, List.filterMap_cons_none (by rw [hl, Option.map_none]), ← hnone hl]
    exact hrest
  | some w =>
    rw [entriesNamed, List.filterMap_cons_some (by rw [hl, Option.map_some])]
    exact readEntries_cons rfl hf hp (hsome w hl) hrest

end Record

end Json

/-! ## Components -/

/-- An object of texts is the value of props. -/
theorem Props.exists_toJson {v : Json} (h : Schema.IsTexts v) : ∃ p : Props, v.canon = p.toJson := by
  obtain ⟨hobj, htexts⟩ := h
  obtain ⟨ns, hv⟩ := Json.exists_canon_eq_obj_iff.mpr hobj
  have hkeys : Members.Ascending (ns.map fun m => (m.1, m.2.text?.getD "")) :=
    List.pairwise_map.mpr (Json.ascending_of_canon_eq hv)
  refine ⟨⟨_, hkeys⟩, ?_⟩
  have hns : ns.map (fun m => (m.1, Json.str (m.2.text?.getD ""))) = ns.map id := by
    refine List.map_congr_left fun (k, w) hm => ?_
    obtain ⟨u, hu, rfl⟩ := (Json.mem_of_canon_eq hv).mp hm
    obtain ⟨s, rfl⟩ := htexts k u hu
    simp [Json.canon, Json.text?]
  rw [hv, toJson, List.map_map]
  exact congrArg Json.obj ((List.map_id ns).symm.trans hns.symm)

namespace Component

open Schema (IsComponent)

theorem salvageProps_canon (k : Kind) (w : Json) : salvageProps k (some w.canon) = salvageProps k (some w) := by
  have hget : (w.canon.get? k.caption).bind Json.text? = (w.get? k.caption).bind Json.text? := by
    rw [Json.get?_canon, Option.bind_map]
    exact congrArg (Option.bind _) (funext Json.text?_canon)
  simp only [salvageProps, Option.bind_some, hget]

theorem entrySources_eq (ms : List (String × Json)) : entrySources (Doc.ofMembers ms) =
    Json.entriesOf (fun w => (Doc.ofJson w, decodeList (Doc.ofJson w))) ms := by
  induction ms with
  | nil => rfl
  | cons m ms ih => rw [Doc.ofMembers, entrySources, ih, Json.entriesOf, Json.entriesOf, List.map_cons]

/-- A component is read from an object in memory by what its members are read as. -/
theorem decode_canon {v : Json} {kind : Kind} {props : Props} {children : List Component} (hobj : ∃ ms, v = .obj ms)
    (hkind : v.get? "type" = some (.str kind.name))
    (hprops : ∀ w, v.get? "props" = some w → w.canon = props.toJson)
    (hnoprops : v.get? "props" = none → props = .empty)
    (hchildren : ∀ w, v.get? "children" = some w → decodeList (Doc.ofJson w.canon) = .ok children)
    (hnochildren : v.get? "children" = none → children = []) :
    decode (Doc.ofJson v.canon) = .ok ⟨kind, props, children⟩ := by
  obtain ⟨ms, hv⟩ := Json.exists_canon_eq_obj_iff.mpr hobj
  -- the drafts after the members in key order, each of which may be missing
  let q₁ : Draft := { children := (v.get? "children").map fun _ => children }
  let q₂ : Draft := { q₁ with props := (v.get? "props").map fun _ => props }
  have hread : record.readEntries Prod.fst record.empty (entrySources (Doc.ofMembers ms)) =
      .ok { q₂ with kind := some kind } := by
    rw [entrySources_eq, Json.Record.readEntries_canon ["children", "props", "type"] hv Prod.fst
      (fun w => Doc.skip_ofJson w) (by decide) (by decide)]
    refine Json.Record.readEntries_named (q := q₁) rfl rfl (fun h => ?_) (fun w hw => ?_) ?_
    · simp only [q₁, h]
      rfl
    · refine Eq.trans (Json.Record.read_of (hchildren w hw)) ?_
      simp only [q₁, hw]
      rfl
    refine Json.Record.readEntries_named (q := q₂) rfl rfl (fun h => ?_) (fun w hw => ?_) ?_
    · simp only [q₂, h]
      rfl
    · have hread : (Json.stringMap (Doc.ofJson w.canon)).map Props.ofList = .ok props := by
        rw [hprops w hw]
        exact Props.decode_of_holds (Doc.holds_ofJson _)
      refine Eq.trans (Json.Record.read_of hread) ?_
      simp only [q₂, hw]
      rfl
    refine Json.Record.readEntries_named rfl rfl (fun h => ?_) (fun w hw => ?_) rfl
    · rw [h] at hkind
      cases hkind
    · rw [hkind] at hw
      cases hw
      rw [Json.canon]
      exact Json.Record.read_of (Kind.decode_of_holds (Doc.holds_ofJson (.str kind.name)))
  have hp : q₂.props.getD .empty = props := by
    cases hl : v.get? "props" with
    | none => simp [q₂, hl, hnoprops hl]
    | some w => simp [q₂, hl]
  have hc : q₂.children.getD [] = children := by
    cases hl : v.get? "children" with
    | none => simp [q₂, q₁, hl, hnochildren hl]
    | some w => simp [q₂, q₁, hl]
  rw [hv, Doc.ofJson, decode]
  refine Json.Record.ofEntries_closed hread ?_
  simp only [record, Draft.finish, hp, hc]

theorem exists_decodeItems {xs : List Json}
    (h : ∀ x ∈ xs, ∃ c, decode (Doc.ofJson x.canon) = .ok c ∧
      ∀ levels, salvageAt (levels + 1) x = some (retain levels c)) :
    ∃ cs, decodeItems (Doc.ofItems (xs.map Json.canon)) = .ok cs ∧
      ∀ levels, xs.filterMap (salvageAt (levels + 1)) = cs.map (retain levels) := by
  induction xs with
  | nil => exact ⟨[], rfl, fun _ => rfl⟩
  | cons x xs ih =>
    obtain ⟨⟨c, hc, hs⟩, hxs⟩ := List.forall_mem_cons.mp h
    obtain ⟨cs, hcs, hss⟩ := ih hxs
    refine ⟨c :: cs, ?_, fun levels => ?_⟩
    · rw [List.map_cons, Doc.ofItems, decodeItems, hc, hcs]
      rfl
    · rw [List.filterMap_cons_some (hs levels), hss levels, List.map_cons]

theorem decodeList_ofJson {xs : List Json} {cs : List Component}
    (h : decodeItems (Doc.ofItems (xs.map Json.canon)) = .ok cs) :
    decodeList (Doc.ofJson (Json.arr xs).canon) = .ok cs := by
  rw [Json.canon, Json.canonItems_eq_map, Doc.ofJson, decodeList, h]
  rfl

/-- Texts that may be missing are read as props, of which the salvager sees the same. -/
theorem exists_props {o : Option Json} (h : ∀ w, o = some w → Schema.IsTexts w) :
    ∃ props : Props, (∀ w, o = some w → w.canon = props.toJson) ∧ (o = none → props = .empty) ∧
      ∀ k, salvageProps k o = k.captionOnly props := by
  cases o with
  | none => exact ⟨.empty, by simp, fun _ => rfl, fun k => rfl⟩
  | some w =>
    obtain ⟨props, hp⟩ := Props.exists_toJson (h w rfl)
    refine ⟨props, fun u hu => Option.some.inj hu ▸ hp, by simp, fun k => ?_⟩
    rw [← salvageProps_canon, hp, salvageProps_toJson]

/-- A component of the grammar is read as a component, and salvaged as what is retained of that. -/
theorem exists_decode {v : Json} (h : IsComponent v) : ∃ c, decode (Doc.ofJson v.canon) = .ok c ∧
    ∀ levels, salvageAt (levels + 1) v = some (retain levels c) := by
  induction h with
  | @mk ms kind inside hkind hprops hchildren _ ih =>
    obtain ⟨props, hp, hnop, hsalvageProps⟩ := exists_props hprops
    -- what the grammar has inside only counts if there are children at all
    have hinside : ∀ x ∈ (((Json.obj ms).get? "children").bind Json.items?).getD [], x ∈ inside := by
      cases hc : (Json.obj ms).get? "children" with
      | none => simp
      | some w => simp [hchildren w hc, Json.items?]
    obtain ⟨cs, hcs, hsalvage⟩ := exists_decodeItems fun x hx => ih x (hinside x hx)
    refine ⟨⟨kind, props, cs⟩, decode_canon ⟨ms, rfl⟩ hkind hp hnop (fun w hw => ?_) (fun hn => ?_), fun levels => ?_⟩
    · rw [hw, hchildren w hw] at hcs
      rw [hchildren w hw]
      exact decodeList_ofJson hcs
    · rw [hn] at hcs
      cases hcs
      rfl
    · rw [salvageAt, hkind]
      cases levels with
      | zero =>
        have hnil : ∀ xs : List Json, xs.filterMap (salvageAt 0) = [] := fun _ =>
          List.filterMap_eq_nil_iff.mpr fun _ _ => rfl
        simp [Json.text?, retain, hsalvageProps, hnil]
      | succ n => simp [Json.text?, retain, hsalvageProps, hsalvage]

end Component

/-! ## Plans -/

namespace Plan

/-- A plan document is read as a plan, and salvaged as the value of that plan is. -/
theorem exists_decode {v : Json} (h : Schema.IsPlan v) :
    ∃ p, Json.decodeJson decode v = .ok p ∧ salvage v = salvage p.toValue := by
  obtain ⟨hobj, ⟨s, hlayout⟩, xs, hcomponents, _, hin⟩ := h
  obtain ⟨cs, hcs, hsalvage⟩ := Component.exists_decodeItems fun x hx => Component.exists_decode (hin x hx)
  obtain ⟨ms, hv⟩ := Json.exists_canon_eq_obj_iff.mpr hobj
  have hread : record.readEntries id record.empty (Doc.ofMembers ms) = .ok ⟨some s, some cs⟩ := by
    rw [Doc.ofMembers_eq, Json.Record.readEntries_canon ["components", "layout"] hv id
      (fun w => Doc.skip_ofJson w) (by decide) (by decide)]
    refine Json.Record.readEntries_named (q := { components := some cs }) rfl rfl (fun h => ?_) (fun w hw => ?_) ?_
    · rw [hcomponents] at h
      cases h
    · rw [hcomponents] at hw
      cases hw
      exact Json.Record.read_of (Component.decodeList_ofJson hcs)
    refine Json.Record.readEntries_named rfl rfl (fun h => ?_) (fun w hw => ?_) rfl
    · rw [hlayout] at h
      cases h
    · rw [hlayout] at hw
      cases hw
      rw [Json.canon]
      exact Json.Record.read_of (Json.string_of_holds (Doc.holds_ofJson (.str s)))
  have hdecode : decode (Doc.ofJson v.canon) = .ok ⟨s, cs⟩ := by
    rw [hv, Doc.ofJson, decode, Json.Record.decode]
    exact Json.Record.ofEntries_closed hread rfl
  refine ⟨⟨s, cs⟩, ?_, ?_⟩
  · rw [Json.decodeJson, hdecode]
  · have hin : xs.filterMap Component.salvage = cs.map (Component.retain Limits.salvageDepth) :=
      hsalvage Limits.salvageDepth
    rw [salvage_toValue, salvage]
    simp [hlayout, hcomponents, Json.text?, Json.items?, hin]

end Plan

end Wireframe
