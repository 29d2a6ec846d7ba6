import Wireframe.History
import Wireframe.Proofs.KeyOrder
import Wireframe.Proofs.Spelling

/-!
# Decoding what holds a value

Every decoder of plans and of the history reads a value back from each document that holds it.

* **Records** (`Json.Record.readEntries_cons`, `Json.Record.ofEntries_closed`): members go into a record one by one.
* **Plans** (`Component.decode_of_holds`, `Plan.decode_of_holds`): by induction on components.
* **Entries** (`History.Entry.decode_of_holds`).
-/

namespace Wireframe

open Json (Doc Entry)

namespace Json

theorem string_of_holds {s : String} {d : Doc} (h : Doc.Holds (.str s) d) : string d = .ok s := by
  cases h
  rfl

theorem size_of_holds {n : Nat} {d : Doc} (h : Doc.Holds (.ofNat n) d) : size d = .ok n := by
  cases h
  simp [size, natAs]

theorem mapEntries_of_holds {ms : List (String × String)} {es : List (Entry Doc)}
    (h : Doc.HoldsMembers (ms.map fun m => (m.1, .str m.2)) es) : mapEntries es = .ok ms := by
  induction ms generalizing es with
  | nil =>
    cases h
    rfl
  | cons m ms ih =>
    cases h with
    | cons _ _ hd hes =>
      rw [mapEntries]
      simp [orFault, string_of_holds hd, ih hes, bind, Except.bind, pure, Except.pure]

theorem stringMap_of_holds {ms : List (String × String)} {d : Doc}
    (h : Doc.Holds (.obj (ms.map fun m => (m.1, .str m.2))) d) : stringMap d = .ok ms := by
  cases h with
  | obj _ _ hes =>
    rw [stringMap, mapEntries_of_holds hes]
    rfl

/-! ## Records -/

namespace Record

variable {σ π α β : Type} {r : Record σ π α} {doc : σ → Doc} {p q : π} {e : Entry σ} {es : List (Entry σ)}

/-- A member that a field reads goes into the record under construction. -/
theorem readEntries_cons {k : String} {f : Field σ π} {z : π} (hk : e.key = .ok k)
    (hf : r.fields.find? (fun f => f.name == k) = some f) (hp : f.filled p = false) (hq : f.read p e.value = .ok q)
    (hes : r.readEntries doc q es = .ok z) : r.readEntries doc p (e :: es) = .ok z := by
  rw [readEntries, hk]
  simp [hf, hp, hq, hes, orFault, placed, bind, Except.bind]

theorem read_of {name : String} {optional : Bool} {get : π → Option β} {set : β → π → π}
    {decode : σ → Except DecodeError β} {s : σ} {b : β} (h : decode s = .ok b) :
    (Field.of name optional get set decode).read p s = .ok (set b p) := by
  rw [Field.of]
  simp [h, Except.map]

/-- A record whose members are read up to the end is completed. -/
theorem ofEntries_closed {a : α} {stop : Option Mark} (hp : r.readEntries doc r.empty es = .ok p)
    (ha : r.finish p = .ok a) : r.ofEntries doc none es (.closed stop) = .ok a := by
  rw [ofEntries]
  simp [enter, Ending.check, orFault, complete, hp, ha, bind, Except.bind]

end Record

end Json

/-! ## Plans -/

theorem Props.decode_of_holds {p : Props} {d : Doc} (h : Doc.Holds p.toJson d) :
    (Json.stringMap d).map Props.ofList = .ok p := by
  have hp : Props.ofList p.entries = p := Props.ext (Members.ofList_eq_self p.ascending)
  rw [Json.stringMap_of_holds h, Except.map, hp]

theorem Kind.decode_of_holds {k : Kind} {d : Doc} (h : Doc.Holds (.str k.name) d) : Kind.decode d = .ok k := by
  cases h
  cases k <;> rfl

namespace Component

theorem decodeItems_of_holds {toJson : Component → Json} {cs : List Component}
    (hc : ∀ c ∈ cs, ∀ d, Doc.Holds (toJson c) d → decode d = .ok c) {ds : List Doc}
    (h : Doc.HoldsItems (cs.map toJson) ds) : decodeItems ds = .ok cs := by
  induction cs generalizing ds with
  | nil =>
    cases h
    rfl
  | cons c cs ih =>
    obtain ⟨hc, hcs⟩ := List.forall_mem_cons.mp hc
    cases h with
    | cons hd hds =>
      rw [decodeItems, hc _ hd, ih hcs hds]
      rfl

theorem decodeList_of_holds {toJson : Component → Json} {cs : List Component}
    (hc : ∀ c ∈ cs, ∀ d, Doc.Holds (toJson c) d → decode d = .ok c) {d : Doc}
    (h : Doc.Holds (.arr (cs.map toJson)) d) : decodeList d = .ok cs := by
  cases h with
  | arr _ _ hds =>
    rw [decodeList, decodeItems_of_holds hc hds]
    rfl

theorem decode_of_holds (c : Component) : ∀ d, Doc.Holds c.toJson d → decode d = .ok c := by
  induction c using Component.induct with
  | mk kind props children ih =>
    intro d h
    cases h with
    | obj _ stop hes =>
    cases hes with
    | cons _ _ hkind hes =>
    cases hes with
    | cons _ _ hprops hes =>
    cases hes with
    | cons _ _ hchildren hes =>
    cases hes
    rw [toJsonAll_eq_map] at hchildren
    rw [decode]
    refine Json.Record.ofEntries_closed (p := ⟨some kind, some props, some children⟩) ?_ rfl
    simp only [entrySources]
    refine Json.Record.readEntries_cons rfl rfl rfl (Json.Record.read_of (Kind.decode_of_holds hkind)) ?_
    refine Json.Record.readEntries_cons rfl rfl rfl (Json.Record.read_of (Props.decode_of_holds hprops)) ?_
    refine Json.Record.readEntries_cons rfl rfl rfl (Json.Record.read_of (decodeList_of_holds ih hchildren)) ?_
    rfl

end Component

theorem Plan.decode_of_holds (p : Plan) (d : Doc) (h : Doc.Holds p.toJson d) : Plan.decode d = .ok p := by
  cases h with
  | obj _ stop hes =>
  cases hes with
  | cons _ _ hlayout hes =>
  cases hes with
  | cons _ _ hcomponents hes =>
  cases hes
  rw [Component.toJsonAll_eq_map] at hcomponents
  have hc := Component.decodeList_of_holds (fun c _ => c.decode_of_holds) hcomponents
  rw [decode, Json.Record.decode]
  refine Json.Record.ofEntries_closed (p := ⟨some p.layout, some p.components⟩) ?_ rfl
  refine Json.Record.readEntries_cons rfl rfl rfl (Json.Record.read_of (Json.string_of_holds hlayout)) ?_
  exact Json.Record.readEntries_cons rfl rfl rfl (Json.Record.read_of hc) rfl

theorem History.Entry.decode_of_holds (e : History.Entry) (d : Doc) (h : Doc.Holds e.toJson d) :
    History.Entry.decode d = .ok e := by
  cases h with
  | obj _ stop hes =>
  cases hes with
  | cons _ _ hversion hes =>
  cases hes with
  | cons _ _ hprompt hes =>
  cases hes with
  | cons _ _ hhash hes =>
  cases hes with
  | cons _ _ hplan hes =>
  cases hes
  rw [decode, Json.Record.decode]
  refine Json.Record.ofEntries_closed (p := ⟨some e.version, some e.prompt, some e.hash, some e.plan⟩) ?_ rfl
  refine Json.Record.readEntries_cons rfl rfl rfl (Json.Record.read_of (Json.size_of_holds hversion)) ?_
  refine Json.Record.readEntries_cons rfl rfl rfl (Json.Record.read_of (Json.string_of_holds hprompt)) ?_
  refine Json.Record.readEntries_cons rfl rfl rfl (Json.Record.read_of (Json.string_of_holds hhash)) ?_
  exact Json.Record.readEntries_cons rfl rfl rfl (Json.Record.read_of (Plan.decode_of_holds e.plan _ hplan)) rfl

end Wireframe
