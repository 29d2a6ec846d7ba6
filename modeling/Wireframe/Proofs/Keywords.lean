import Mathlib.Logic.Basic
import Wireframe.Proofs.Grammar

/-!
# The schema as a document

A schema is a document too: its members are keywords, each of which says something about values of one type and nothing
about others. Here the document of the plan schema is read keyword by keyword, as draft 7 of JSON Schema has it, and
turns out to say what the checker looks for.

* **Keywords of a value** (`Schema.Asserts`): `type`, `enum`, `required` and `maxItems`.
* **Validity** (`Schema.Valid`): with these, `properties`, `additionalProperties` and `items` go on to the parts of the
  value, and `$ref` to another schema of the document.
* **The parts of the plan schema** (`valid_texts_iff`, `valid_component_iff`): one equivalence for each schema in the
  document; components by induction on the value.
* **The whole** (`Schema.accepts_exactly`): the checker, the document and the grammar agree on every value.
-/

namespace Wireframe.Schema

/-! ## Keywords -/

def typeName : Json → String
  | .null => "null"
  | .bool _ => "boolean"
  | .num _ => "number"
  | .str _ => "string"
  | .arr _ => "array"
  | .obj _ => "object"

/-- What a schema says about a value without going on to other schemas. -/
structure Asserts (schema v : Json) : Prop where
  type : ∀ t, schema.get? "type" = some (.str t) → typeName v = t
  enum : ∀ vs, schema.get? "enum" = some (.arr vs) → ∃ w ∈ vs, w.canon = v.canon
  required : ∀ names, schema.get? "required" = some (.arr names) → ∀ ms, v = .obj ms →
    ∀ name, .str name ∈ names → ∃ w, v.get? name = some w
  maxItems : ∀ n, schema.get? "maxItems" = some (.ofNat n) → ∀ xs, v = .arr xs → xs.length ≤ n

/-- The schema of a property. -/
def property? (schema : Json) (name : String) : Option Json := (schema.get? "properties").bind (·.get? name)

/-- The part of a document that a reference leads to: a number sign for the root, then keys after slashes. -/
def resolve? (root : Json) (reference : String) : Option Json :=
  match Text.splitOn '/' reference.toList with
  | ['#'] :: keys => keys.foldlM (fun v key => v.get? (String.ofList (Path.unescape key))) root
  | _ => none

/-- A value is valid under a schema inside a document. Where a schema is a reference, its other members do not count. -/
inductive Valid (root : Json) : Json → Json → Prop
  | reference {schema target v : Json} {name : String} :
      schema.get? "$ref" = some (.str name) → resolve? root name = some target → Valid root target v →
      Valid root schema v
  | keywords {schema v : Json} :
      schema.get? "$ref" = none → Asserts schema v →
      (∀ name part, property? schema name = some part → ∀ w, v.get? name = some w → Valid root part w) →
      (∀ part, schema.get? "additionalProperties" = some part →
        ∀ name w, property? schema name = none → v.get? name = some w → Valid root part w) →
      (∀ part, schema.get? "items" = some part → ∀ xs, v = .arr xs → ∀ x ∈ xs, Valid root part x) →
      Valid root schema v

variable {root schema v : Json}

theorem valid_reference_iff {target : Json} {name : String} (hs : schema.get? "$ref" = some (.str name))
    (ht : resolve? root name = some target) : Valid root schema v ↔ Valid root target v := by
  constructor
  · intro h
    cases h with
    | reference hs' ht' hv =>
      cases hs.symm.trans hs'
      cases ht.symm.trans ht'
      exact hv
    | keywords hs' => cases hs.symm.trans hs'
  · exact .reference hs ht

theorem valid_keywords_iff (hs : schema.get? "$ref" = none) : Valid root schema v ↔ Asserts schema v ∧
    (∀ name part, property? schema name = some part → ∀ w, v.get? name = some w → Valid root part w) ∧
    (∀ part, schema.get? "additionalProperties" = some part →
      ∀ name w, property? schema name = none → v.get? name = some w → Valid root part w) ∧
    (∀ part, schema.get? "items" = some part → ∀ xs, v = .arr xs → ∀ x ∈ xs, Valid root part x) := by
  constructor
  · intro h
    cases h with
    | reference hs' => cases hs.symm.trans hs'
    | keywords _ ha hp hm hi => exact ⟨ha, hp, hm, hi⟩
  · rintro ⟨ha, hp, hm, hi⟩
    exact .keywords hs ha hp hm hi

theorem asserts_iff : Asserts schema v ↔
    (∀ t, schema.get? "type" = some (.str t) → typeName v = t) ∧
    (∀ vs, schema.get? "enum" = some (.arr vs) → ∃ w ∈ vs, w.canon = v.canon) ∧
    (∀ names, schema.get? "required" = some (.arr names) → ∀ ms, v = .obj ms →
      ∀ name, .str name ∈ names → ∃ w, v.get? name = some w) ∧
    (∀ n, schema.get? "maxItems" = some (.ofNat n) → ∀ xs, v = .arr xs → xs.length ≤ n) :=
  ⟨fun ⟨a, b, c, d⟩ => ⟨a, b, c, d⟩, fun ⟨a, b, c, d⟩ => ⟨a, b, c, d⟩⟩

theorem typeName_eq_string_iff : typeName v = "string" ↔ ∃ s, v = .str s := by
  cases v <;> simp [typeName]

theorem typeName_eq_array_iff : typeName v = "array" ↔ ∃ xs, v = .arr xs := by
  cases v <;> simp [typeName]

theorem typeName_eq_object_iff : typeName v = "object" ↔ ∃ ms, v = .obj ms := by
  cases v <;> simp [typeName]

/-! ## The parts of the plan schema -/

def text : Json := ofType "string"

def texts : Json := ofType "object" [("additionalProperties", text)]

def kinds : Json := .obj [("enum", kindNames)]

def children : Json := ofType "array" [("items", componentRef)]

def component : Json :=
  ofType "object" [
    ("required", .arr [.str "type"]),
    ("properties", .obj [("type", kinds), ("props", texts), ("children", children)])]

def components : Json := ofType "array" [("maxItems", .ofNat Limits.schemaWidth), ("items", componentRef)]

theorem ofNat_inj {m n : Nat} : Json.ofNat m = .ofNat n ↔ m = n := by
  rw [Json.ofNat, Json.ofNat, Json.num.injEq, Number.int.injEq, Int.ofNat_inj]

theorem get?_obj (ms : List (String × Json)) (key : String) : (Json.obj ms).get? key = ms.lookup key := rfl

theorem valid_text_iff : Valid root text v ↔ ∃ s, v = .str s := by
  rw [valid_keywords_iff (by rfl), asserts_iff]
  simp [text, ofType, property?, get?_obj, Members.lookup_cons_ite, typeName_eq_string_iff]

theorem valid_texts_iff : Valid root texts v ↔ IsTexts v := by
  have hkeywords : Valid root texts v ↔
      (∃ ms, v = .obj ms) ∧ ∀ name w, v.get? name = some w → Valid root text w := by
    rw [valid_keywords_iff (by rfl), asserts_iff]
    simp [texts, ofType, property?, get?_obj, Members.lookup_cons_ite, typeName_eq_object_iff]
  rw [hkeywords]
  simp only [valid_text_iff]
  exact ⟨fun h => ⟨h.1, h.2⟩, fun h => ⟨h.object, h.texts⟩⟩

theorem valid_kinds_iff : Valid root kinds v ↔ ∃ k : Kind, v = .str k.name := by
  have hkeywords : Valid root kinds v ↔ ∃ k ∈ Kind.all, (Json.str k.name).canon = v.canon := by
    rw [valid_keywords_iff (by rfl), asserts_iff]
    simp [kinds, kindNames, property?, get?_obj, Members.lookup_cons_ite]
  rw [hkeywords]
  constructor
  · rintro ⟨k, _, hk⟩
    rw [Json.canon] at hk
    exact ⟨k, canon_eq_str_iff.mp hk.symm⟩
  · rintro ⟨k, rfl⟩
    exact ⟨k, by cases k <;> decide, rfl⟩

theorem valid_componentRef_iff : Valid document componentRef v ↔ Valid document component v :=
  valid_reference_iff rfl (by rfl)

theorem valid_children_iff :
    Valid document children v ↔ ∃ xs, v = .arr xs ∧ ∀ x ∈ xs, Valid document component x := by
  have hkeywords : Valid document children v ↔
      (∃ xs, v = .arr xs) ∧ ∀ xs, v = .arr xs → ∀ x ∈ xs, Valid document componentRef x := by
    rw [valid_keywords_iff (by rfl), asserts_iff]
    simp [children, ofType, property?, get?_obj, Members.lookup_cons_ite, typeName_eq_array_iff]
  rw [hkeywords]
  simp only [valid_componentRef_iff]
  constructor
  · rintro ⟨⟨xs, hxs⟩, h⟩
    exact ⟨xs, hxs, h xs hxs⟩
  · rintro ⟨xs, rfl, h⟩
    exact ⟨⟨xs, rfl⟩, fun _ hys => Json.arr.inj hys ▸ h⟩

theorem valid_components_iff : Valid document components v ↔
    ∃ xs, v = .arr xs ∧ xs.length ≤ 30 ∧ ∀ x ∈ xs, Valid document component x := by
  have hkeywords : Valid document components v ↔ (∃ xs, v = .arr xs) ∧
      (∀ xs, v = .arr xs → xs.length ≤ 30) ∧
      ∀ xs, v = .arr xs → ∀ x ∈ xs, Valid document componentRef x := by
    rw [valid_keywords_iff (by rfl), asserts_iff]
    simp [components, ofType, property?, get?_obj, Members.lookup_cons_ite, typeName_eq_array_iff, ofNat_inj,
      Limits.schemaWidth, and_assoc]
  rw [hkeywords]
  simp only [valid_componentRef_iff]
  constructor
  · rintro ⟨⟨xs, hxs⟩, hwidth, h⟩
    exact ⟨xs, hxs, hwidth xs hxs, h xs hxs⟩
  · rintro ⟨xs, rfl, hwidth, h⟩
    exact ⟨⟨xs, rfl⟩, fun _ hys => Json.arr.inj hys ▸ hwidth, fun _ hys => Json.arr.inj hys ▸ h⟩

theorem valid_component_step : Valid document component v ↔ (∃ ms, v = .obj ms) ∧
    (∃ k : Kind, v.get? "type" = some (.str k.name)) ∧ (∀ w, v.get? "props" = some w → IsTexts w) ∧
    (∀ w, v.get? "children" = some w → ∃ xs, w = .arr xs ∧ ∀ x ∈ xs, Valid document component x) := by
  have hkeywords : Valid document component v ↔
      ((∃ ms, v = .obj ms) ∧ ∀ ms, v = .obj ms → ∃ w, v.get? "type" = some w) ∧
      ∀ name part, (if name = "type" then some kinds else if name = "props" then some texts
        else if name = "children" then some children else none) = some part →
          ∀ w, v.get? name = some w → Valid document part w := by
    rw [valid_keywords_iff (by rfl), asserts_iff]
    simp [component, ofType, property?, get?_obj, Members.lookup_cons_ite, typeName_eq_object_iff]
  rw [hkeywords]
  constructor
  · rintro ⟨⟨⟨ms, hms⟩, hrequired⟩, hparts⟩
    obtain ⟨w, hw⟩ := hrequired ms hms
    obtain ⟨k, rfl⟩ := valid_kinds_iff.mp (hparts "type" kinds rfl w hw)
    exact ⟨⟨ms, hms⟩, ⟨k, hw⟩, fun w hw => valid_texts_iff.mp (hparts "props" texts rfl w hw),
      fun w hw => valid_children_iff.mp (hparts "children" children rfl w hw)⟩
  · rintro ⟨hobject, ⟨k, hk⟩, hprops, hchildren⟩
    refine ⟨⟨hobject, fun _ _ => ⟨_, hk⟩⟩, fun name part hpart w hw => ?_⟩
    split_ifs at hpart with htype hprop hin
    · cases hpart
      subst htype
      exact valid_kinds_iff.mpr ⟨k, Option.some.inj (hw.symm.trans hk)⟩
    · cases hpart
      subst hprop
      exact valid_texts_iff.mpr (hprops w hw)
    · cases hpart
      subst hin
      exact valid_children_iff.mpr (hchildren w hw)

theorem valid_component_iff (v : Json) : Valid document component v ↔ IsComponent v := by
  induction v using Json.induct_inside with
  | step v ih =>
    rw [valid_component_step, isComponent_iff]
    refine and_congr_right fun _ => and_congr_right fun _ => and_congr_right fun _ => ?_
    refine forall_congr' fun w => forall_congr' fun hw => exists_congr fun xs => and_congr_right fun hxs => ?_
    exact forall₂_congr fun x hx => ih "children" xs x (hxs ▸ hw) hx

theorem asserts_document_iff : Asserts document v ↔
    (∃ ms, v = .obj ms) ∧ (∃ w, v.get? "layout" = some w) ∧ ∃ w, v.get? "components" = some w := by
  have hkeywords : Asserts document v ↔ (∃ ms, v = .obj ms) ∧
      ∀ ms, v = .obj ms → (∃ w, v.get? "layout" = some w) ∧ ∃ w, v.get? "components" = some w := by
    rw [asserts_iff]
    simp [document, get?_obj, Members.lookup_cons_ite, typeName_eq_object_iff]
  rw [hkeywords]
  exact and_congr_right fun ⟨ms, hms⟩ => ⟨fun h => h ms hms, fun h _ _ => h⟩

theorem property?_document (name : String) : property? document name =
    if name = "layout" then some text else if name = "components" then some components else none := by
  simp [document, property?, get?_obj, Members.lookup_cons_ite, text, components]

/-- The document of the plan schema is the grammar of plans. -/
theorem valid_document_iff (v : Json) : Valid document document v ↔ IsPlan v := by
  have hmore : document.get? "additionalProperties" = none := rfl
  have hitems : document.get? "items" = none := rfl
  have hkeywords : Valid document document v ↔
      ((∃ ms, v = .obj ms) ∧ (∃ w, v.get? "layout" = some w) ∧ ∃ w, v.get? "components" = some w) ∧
      ∀ name part, (if name = "layout" then some text else if name = "components" then some components
        else none) = some part → ∀ w, v.get? name = some w → Valid document part w := by
    rw [valid_keywords_iff rfl, asserts_document_iff]
    simp only [property?_document, hmore, hitems, reduceCtorEq, false_implies, implies_true, and_true]
  rw [hkeywords]
  constructor
  · rintro ⟨⟨hobject, ⟨l, hl⟩, c, hc⟩, hparts⟩
    obtain ⟨s, rfl⟩ := valid_text_iff.mp (hparts "layout" text rfl l hl)
    obtain ⟨xs, rfl, hwidth, hin⟩ := valid_components_iff.mp (hparts "components" components rfl c hc)
    exact ⟨hobject, ⟨s, hl⟩, xs, hc, hwidth, fun x hx => (valid_component_iff x).mp (hin x hx)⟩
  · rintro ⟨hobject, ⟨s, hs⟩, xs, hxs, hwidth, hin⟩
    refine ⟨⟨hobject, ⟨_, hs⟩, _, hxs⟩, fun name part hpart w hw => ?_⟩
    split_ifs at hpart with hlayout hcomponents
    · cases hpart
      subst hlayout
      exact valid_text_iff.mpr ⟨s, Option.some.inj (hw.symm.trans hs)⟩
    · cases hpart
      subst hcomponents
      exact valid_components_iff.mpr ⟨xs, Option.some.inj (hw.symm.trans hxs), hwidth,
        fun x hx => (valid_component_iff x).mpr (hin x hx)⟩

/-- **The schema accepts exactly plans.** For every value, the checker raises no issue exactly when the value is a plan
by the grammar, and that is so exactly when the value is valid under the document of the schema, keyword by keyword. -/
theorem accepts_exactly (v : Json) :
    (issues v = [] ↔ IsPlan v) ∧ (Valid document document v ↔ IsPlan v) := by
  refine ⟨?_, valid_document_iff v⟩
  rw [issues, List.map_eq_nil_iff, findings_eq_nil_iff]

end Wireframe.Schema
