import Wireframe.Proofs.Digests
import Wireframe.Proofs.PlanTexts
import Wireframe.Proofs.TypedValues

/-!
# Stable texts tell values apart

The stable text of a value does not depend on the order of members, and on nothing else: two values without
floating-point numbers have the same stable text exactly when they are the same value.

* **The same value** (`Json.Same`): arrays position by position, objects key by key. That is what canonical forms
  compare (`Json.canon_eq_canon_iff`), by induction on the value.
* **One text, one value** (`Json.separable`): from the text of a value, followed by something that does not go on with
  a number, both the value and what follows can be told. The first character gives the shape (`Json.head_write`), texts
  and numbers end where they are read to (`Json.quoted_append_inj`, `Json.writeInt_append_inj`), and lists follow from
  their items (`Json.writeItems_append_inj`, `Json.writeMembers_append_inj`).
* **Plans** (`Plan.stable_injective`): plans differ when their stable texts do, so that digests of different plans are
  digests of different messages.
-/

namespace Wireframe

open Json (Doc)
open Json.Scanner (Stops)

namespace Json

/-! ## Values without floating-point numbers -/

/-- A value that is built without floating-point numbers. -/
inductive Exact : Json → Prop
  | null : Exact .null
  | bool (b : Bool) : Exact (.bool b)
  | int (i : Int) : Exact (.num (.int i))
  | str (s : String) : Exact (.str s)
  | arr {xs : List Json} : (∀ x ∈ xs, Exact x) → Exact (.arr xs)
  | obj {ms : List (String × Json)} : (∀ m ∈ ms, Exact m.2) → Exact (.obj ms)

/-- What holds of a value whenever it holds of the items or of the members' values inside holds of all values. -/
theorem induct {motive : Json → Prop} (null : motive .null) (bool : ∀ b, motive (.bool b))
    (num : ∀ n, motive (.num n)) (str : ∀ s, motive (.str s))
    (arr : ∀ xs, (∀ x ∈ xs, motive x) → motive (.arr xs))
    (obj : ∀ ms, (∀ m ∈ ms, motive m.2) → motive (.obj ms)) (v : Json) : motive v :=
  @Json.rec motive (fun xs => ∀ x ∈ xs, motive x) (fun ms => ∀ m ∈ ms, motive m.2) (fun m => motive m.2)
    null bool num str arr obj (by simp) (fun _ _ hx hxs => List.forall_mem_cons.mpr ⟨hx, hxs⟩) (by simp)
    (fun _ _ hm hms => List.forall_mem_cons.mpr ⟨hm, hms⟩) (fun _ _ h => h) v

theorem Exact.canon {v : Json} (h : v.Exact) : v.canon.Exact := by
  induction h with
  | null => rw [Json.canon]; exact .null
  | bool b => rw [Json.canon]; exact .bool b
  | int i => rw [Json.canon]; exact .int i
  | str s => rw [Json.canon]; exact .str s
  | arr _ ih =>
    rw [Json.canon, canonItems_eq_map]
    exact .arr (List.forall_mem_map.mpr ih)
  | obj _ ih =>
    rw [Json.canon, canonMembers_eq_map]
    refine .obj fun m hm => ?_
    obtain ⟨n, hn, rfl⟩ := List.mem_map.mp (Members.mem_of_mem_sort hm)
    exact ih n hn

/-! ## The same value -/

/-- Two values are the same when arrays are compared position by position and objects key by key, where the first
member of a key counts. -/
inductive Same : Json → Json → Prop
  | null : Same .null .null
  | bool (b : Bool) : Same (.bool b) (.bool b)
  | num (n : Number) : Same (.num n) (.num n)
  | str (s : String) : Same (.str s) (.str s)
  | arr {xs ys : List Json} : xs.length = ys.length →
      (∀ (i : Nat) (x y : Json), xs[i]? = some x → ys[i]? = some y → Same x y) → Same (.arr xs) (.arr ys)
  | obj {ms ns : List (String × Json)} : (∀ k, ms.lookup k = none ↔ ns.lookup k = none) →
      (∀ k x y, ms.lookup k = some x → ns.lookup k = some y → Same x y) → Same (.obj ms) (.obj ns)

/-- Lists that end at the same position have the same length. -/
theorem length_eq_iff {xs ys : List Json} : xs.length = ys.length ↔ ∀ i : Nat, xs[i]? = none ↔ ys[i]? = none := by
  simp only [List.getElem?_eq_none_iff]
  constructor
  · intro h i
    rw [h]
  · intro h
    exact Nat.le_antisymm ((h ys.length).mpr (Nat.le_refl _)) ((h xs.length).mp (Nat.le_refl _))

/-- Canonical forms of what may be missing are equal when both are missing, or when both are there and alike. -/
theorem map_canon_eq_iff {a b : Option Json}
    (h : ∀ x y, a = some x → b = some y → (x.canon = y.canon ↔ x.Same y)) :
    a.map canon = b.map canon ↔ (a = none ↔ b = none) ∧ ∀ x y, a = some x → b = some y → x.Same y := by
  cases a with
  | none => cases b <;> simp
  | some x =>
    cases b with
    | none => simp
    | some y => simpa using h x y rfl rfl

theorem canonItems_eq_canonItems_iff {xs ys : List Json} (h : ∀ x ∈ xs, ∀ {y : Json}, x.canon = y.canon ↔ x.Same y) :
    canonItems xs = canonItems ys ↔ xs.length = ys.length ∧
      ∀ (i : Nat) (x y : Json), xs[i]? = some x → ys[i]? = some y → x.Same y := by
  have hat (i : Nat) := map_canon_eq_iff (a := xs[i]?) (b := ys[i]?) fun x _ hx _ => h x (List.mem_of_getElem? hx)
  simp only [canonItems_eq_map, List.ext_getElem?_iff, List.getElem?_map, hat, forall_and, length_eq_iff]

/-- Canonical members are compared key by key. -/
theorem sort_canonMembers_eq_iff {ms ns : List (String × Json)}
    (h : ∀ m ∈ ms, ∀ {y : Json}, m.2.canon = y.canon ↔ m.2.Same y) :
    Members.sort (canonMembers ms) = Members.sort (canonMembers ns) ↔
      (∀ k, ms.lookup k = none ↔ ns.lookup k = none) ∧
      ∀ k x y, ms.lookup k = some x → ns.lookup k = some y → x.Same y := by
  have hat (k : String) := map_canon_eq_iff (a := ms.lookup k) (b := ns.lookup k) fun x _ hx _ =>
    h (k, x) (Members.mem_of_lookup hx)
  simp only [Members.sort_eq_sort_iff, lookup_canonMembers, hat, forall_and]

/-- **Canonical forms compare values.** Two values have the same canonical form when they are the same value. -/
theorem canon_eq_canon_iff (v : Json) : ∀ {w : Json}, v.canon = w.canon ↔ v.Same w := by
  induction v using Json.induct with
  | null =>
    intro w
    refine ⟨fun h => ?_, by rintro ⟨⟩; rfl⟩
    cases w <;> simp [canon] at h
    exact .null
  | bool b =>
    intro w
    refine ⟨fun h => ?_, by rintro ⟨⟩; rfl⟩
    cases w <;> simp [canon] at h
    exact h ▸ .bool b
  | num n =>
    intro w
    refine ⟨fun h => ?_, by rintro ⟨⟩; rfl⟩
    cases w <;> simp [canon] at h
    exact h ▸ .num n
  | str s =>
    intro w
    refine ⟨fun h => ?_, by rintro ⟨⟩; rfl⟩
    cases w <;> simp [canon] at h
    exact h ▸ .str s
  | arr xs ih =>
    intro w
    constructor
    · intro h
      cases w <;> simp [canon] at h
      obtain ⟨hlen, hin⟩ := (canonItems_eq_canonItems_iff ih).mp h
      exact .arr hlen hin
    · rintro ⟨⟩
      next hlen hin => rw [canon, canon, (canonItems_eq_canonItems_iff ih).mpr ⟨hlen, hin⟩]
  | obj ms ih =>
    intro w
    constructor
    · intro h
      cases w <;> simp [canon] at h
      obtain ⟨hkeys, hin⟩ := (sort_canonMembers_eq_iff ih).mp h
      exact .obj hkeys hin
    · rintro ⟨⟩
      next hkeys hin => rw [canon, canon, (sort_canonMembers_eq_iff ih).mpr ⟨hkeys, hin⟩]

/-! ## One text, one value -/

/-- What a value is, whatever is inside. -/
inductive Form where
  | null
  | bool (value : Bool)
  | num
  | str
  | arr
  | obj
deriving DecidableEq

def form : Json → Form
  | .null => .null
  | .bool b => .bool b
  | .num _ => .num
  | .str _ => .str
  | .arr _ => .arr
  | .obj _ => .obj

/-- The form of the values whose text starts with a character. -/
def Form.ofHead? (c : Char) : Option Form :=
  if c = 'n' then some .null
  else if c = 't' then some (.bool true)
  else if c = 'f' then some (.bool false)
  else if c = '"' then some .str
  else if c = '[' then some .arr
  else if c = '{' then some .obj
  else if c = '-' || Scanner.isDigit c then some .num
  else none

theorem head_writeInt (i : Int) : ∃ c u, writeInt i = c :: u ∧ Form.ofHead? c = some .num := by
  unfold writeInt
  split
  · exact ⟨_, _, rfl, by decide⟩
  · cases hds : Nat.toDigits 10 i.natAbs with
    | nil => exact absurd hds Nat.toDigits_ne_nil
    | cons c ds =>
      have hc : Scanner.isDigit c = true := Scanner.isDigit_of_mem_toDigits (by rw [hds]; exact List.mem_cons_self)
      have hne : ∀ x, Scanner.isDigit x = false → c ≠ x := by
        rintro x hx rfl
        rw [hx] at hc
        cases hc
      refine ⟨c, ds, rfl, ?_⟩
      simp [Form.ofHead?, hc, hne 'n' rfl, hne 't' rfl, hne 'f' rfl, hne '"' rfl, hne '[' rfl, hne '{' rfl]

/-- The first character of the text of a value gives its form. -/
theorem head_write {v : Json} (h : v.Exact) : ∃ c u, v.write = c :: u ∧ Form.ofHead? c = some v.form := by
  cases h with
  | null => exact ⟨_, _, rfl, by decide⟩
  | bool b => cases b <;> exact ⟨_, _, rfl, by decide⟩
  | int i => exact head_writeInt i
  | str s => exact ⟨_, _, rfl, rfl⟩
  | arr _ => exact ⟨_, _, rfl, rfl⟩
  | obj _ => exact ⟨_, _, rfl, rfl⟩

/-- Values whose texts start alike have the same form. -/
theorem form_eq_of_write {v w : Json} {s t : List Char} (hv : v.Exact) (hw : w.Exact)
    (h : v.write ++ s = w.write ++ t) : v.form = w.form := by
  obtain ⟨c, u, hc, hvc⟩ := head_write hv
  obtain ⟨d, u', hd, hwd⟩ := head_write hw
  rw [hc, hd, List.cons_append, List.cons_append] at h
  rw [(List.cons.inj h).1, hwd] at hvc
  exact (Option.some.inj hvc).symm

theorem close_ne_write {w : Json} (hw : w.Exact) {close : Char} (hclose : Form.ofHead? close = none)
    (s t : List Char) : close :: s ≠ w.write ++ t := by
  obtain ⟨c, u, hc, hwc⟩ := head_write hw
  intro h
  rw [hc, List.cons_append] at h
  rw [← (List.cons.inj h).1, hclose] at hwc
  cases hwc

/-- A text between quotes ends at its closing quote. -/
theorem quoted_append_inj {k l : String} {s t : List Char} (h : quoted k ++ s = quoted l ++ t) : k = l ∧ s = t := by
  have hread (m : String) (r : List Char) :
      Scanner.text ((quoted m ++ r).drop 1) = .ok (m.toList, r) := by
    simpa [quoted] using Scanner.text_quoted m.toList r
  have hok := hread k s
  rw [h, hread l t] at hok
  obtain ⟨hl, hr⟩ := Prod.mk.inj (Except.ok.inj hok)
  exact ⟨(String.toList_inj.mp hl).symm, hr.symm⟩

/-- An integer ends where nothing goes on with a number. -/
theorem writeInt_append_inj {i j : Int} {s t : List Char} (hs : Stops s) (ht : Stops t)
    (h : writeInt i ++ s = writeInt j ++ t) : i = j ∧ s = t := by
  have hok := Reader.lexeme_writeInt i hs
  rw [h, Reader.lexeme_writeInt j ht] at hok
  obtain ⟨hl, hr⟩ := Prod.mk.inj (Except.ok.inj hok)
  simp only [Scanner.Lexeme.mk.injEq, decide_eq_decide] at hl
  obtain ⟨hsign, hdigits, _⟩ := hl
  have habs := Scanner.toDigits_inj hdigits
  exact ⟨by omega, hr.symm⟩

/-! ## Lists -/

section Lists

variable {α : Type} {f : α → List Char} {good : α → Prop} {close : Char}

/-- From the text of something, followed by what does not go on with a number, both can be told. -/
def SeparableBy (f : α → List Char) (good : α → Prop) (x : α) : Prop :=
  ∀ {y : α} {s t : List Char}, good y → Stops s → Stops t → f x ++ s = f y ++ t → x = y ∧ s = t

/-- What comes after an item of a list: the closing bracket, or a comma and the items that are left. -/
def afterItem (f : α → List Char) (close : Char) (s : List Char) : List α → List Char
  | [] => close :: s
  | x :: xs => ',' :: (Text.joinWith [','] ((x :: xs).map f) ++ close :: s)

theorem joinWith_cons_append (x : α) (xs : List α) (s : List Char) :
    Text.joinWith [','] ((x :: xs).map f) ++ close :: s = f x ++ afterItem f close s xs := by
  cases xs <;> simp [Text.joinWith, afterItem]

theorem stops_afterItem (hclose : close ∈ [',', ']', '}']) (s : List Char) (xs : List α) :
    Stops (afterItem f close s xs) := by
  cases xs with
  | nil => exact Reader.stops_sign hclose s
  | cons x xs => exact Reader.stops_sign (by decide) _

/-- **A list can be told from its text when its items can.** -/
theorem joinWith_append_inj (hclose : close ∈ [']', '}']) (hhead : ∀ y, good y → ∀ s t, close :: s ≠ f y ++ t)
    {xs ys : List α} (hxs : ∀ x ∈ xs, good x ∧ SeparableBy f good x) (hys : ∀ y ∈ ys, good y) {s t : List Char}
    (h : Text.joinWith [','] (xs.map f) ++ close :: s = Text.joinWith [','] (ys.map f) ++ close :: t) :
    xs = ys ∧ s = t := by
  have hsign : close ∈ [',', ']', '}'] := List.mem_cons_of_mem _ hclose
  have hcomma : close ≠ ',' := by rintro rfl; exact absurd hclose (by decide)
  induction xs generalizing ys with
  | nil =>
    cases ys with
    | nil => exact ⟨rfl, (List.cons.inj h).2⟩
    | cons y ys =>
      rw [joinWith_cons_append] at h
      exact absurd h (hhead y (hys y List.mem_cons_self) _ _)
  | cons x xs ih =>
    obtain ⟨⟨hx, hsep⟩, hxs⟩ := List.forall_mem_cons.mp hxs
    cases ys with
    | nil =>
      rw [joinWith_cons_append] at h
      exact absurd h.symm (hhead x hx _ _)
    | cons y ys =>
      obtain ⟨hy, hys⟩ := List.forall_mem_cons.mp hys
      rw [joinWith_cons_append, joinWith_cons_append] at h
      obtain ⟨hxy, hrest⟩ := hsep hy (stops_afterItem hsign s xs) (stops_afterItem hsign t ys) h
      cases xs with
      | nil =>
        cases ys with
        | nil => exact ⟨by rw [hxy], (List.cons.inj hrest).2⟩
        | cons z ys => exact absurd (List.cons.inj hrest).1 hcomma
      | cons w xs =>
        cases ys with
        | nil => exact absurd (List.cons.inj hrest).1.symm hcomma
        | cons z ys =>
          obtain ⟨he, hst⟩ := ih hxs hys (List.cons.inj hrest).2
          exact ⟨by rw [hxy, he], hst⟩

end Lists

def writeMember (m : String × Json) : List Char := quoted m.1 ++ ':' :: m.2.write

theorem writeItems_eq (vs : List Json) : writeItems vs = Text.joinWith [','] (vs.map write) := by
  induction vs with
  | nil => rfl
  | cons v vs ih =>
    cases vs with
    | nil => rfl
    | cons w vs => rw [writeItems, ih]; simp [Text.joinWith]

theorem writeMembers_eq (ms : List (String × Json)) : writeMembers ms = Text.joinWith [','] (ms.map writeMember) := by
  induction ms with
  | nil => rfl
  | cons m ms ih =>
    cases ms with
    | nil => rfl
    | cons n ms => rw [writeMembers, ih]; simp [Text.joinWith, writeMember]

theorem separable_writeMember {m : String × Json} (h : SeparableBy write Exact m.2) :
    SeparableBy writeMember (fun n => n.2.Exact) m := by
  intro n s t hn hs ht he
  simp only [writeMember, List.append_assoc, List.cons_append] at he
  obtain ⟨hk, hv⟩ := quoted_append_inj he
  obtain ⟨hv, hst⟩ := h hn hs ht (List.cons.inj hv).2
  exact ⟨Prod.ext hk hv, hst⟩

/-- **From the text of a value, followed by what does not go on with a number, both can be told.** -/
theorem separable {v : Json} (hv : v.Exact) : SeparableBy write Exact v := by
  induction hv with
  | null =>
    intro w s t hw _ _ h
    have ho := form_eq_of_write .null hw h
    cases w <;> cases ho
    exact ⟨rfl, List.append_cancel_left h⟩
  | bool b =>
    intro w s t hw _ _ h
    have ho := form_eq_of_write (.bool b) hw h
    cases w <;> cases ho
    exact ⟨rfl, List.append_cancel_left h⟩
  | int i =>
    intro w s t hw hs ht h
    have ho := form_eq_of_write (.int i) hw h
    cases hw <;> cases ho
    next j =>
      obtain ⟨rfl, hst⟩ := writeInt_append_inj hs ht h
      exact ⟨rfl, hst⟩
  | str k =>
    intro w s t hw _ _ h
    have ho := form_eq_of_write (.str k) hw h
    cases w <;> cases ho
    next l =>
      obtain ⟨rfl, hst⟩ := quoted_append_inj h
      exact ⟨rfl, hst⟩
  | @arr xs hxs ih =>
    intro w s t hw _ _ h
    have ho := form_eq_of_write (.arr hxs) hw h
    cases hw <;> cases ho
    next ys hys =>
      simp only [write, writeItems_eq, List.cons_append, List.append_assoc] at h
      obtain ⟨rfl, hst⟩ := joinWith_append_inj (by decide) (fun y hy => close_ne_write hy (by decide))
        (fun x hx => ⟨hxs x hx, ih x hx⟩) hys (List.cons.inj h).2
      exact ⟨rfl, hst⟩
  | @obj ms hms ih =>
    intro w s t hw _ _ h
    have ho := form_eq_of_write (.obj hms) hw h
    cases hw <;> cases ho
    next ns hns =>
      simp only [write, writeMembers_eq, List.cons_append, List.append_assoc] at h
      have hquote : ∀ (n : String × Json), n.2.Exact → ∀ s t, '}' :: s ≠ writeMember n ++ t := by
        intro n _ s t he
        exact absurd (List.cons.inj he).1 (by decide)
      obtain ⟨rfl, hst⟩ := joinWith_append_inj (by decide) hquote
        (fun m hm => ⟨hms m hm, separable_writeMember (ih m hm)⟩) hns (List.cons.inj h).2
      exact ⟨rfl, hst⟩

/-- Values without floating-point numbers have the same compact text only if they are equal. -/
theorem compact_inj {v w : Json} (hv : v.Exact) (hw : w.Exact) : v.compact = w.compact ↔ v = w := by
  constructor
  · intro h
    have hnil : Stops [] := by simp [Stops]
    exact (separable hv hw hnil hnil (congrArg (· ++ []) (String.ofList_inj.mp h))).1
  · rintro rfl
    rfl

/-- **Stable texts compare values.** -/
theorem stable_eq_stable_iff {v w : Json} (hv : v.Exact) (hw : w.Exact) : v.stable = w.stable ↔ v.Same w := by
  rw [stable, stable, compact_inj hv.canon hw.canon, canon_eq_canon_iff]

def stableBytes (v : Json) : List UInt8 := v.stable.toUTF8.toList

theorem stableBytes_eq_iff {v w : Json} : v.stableBytes = w.stableBytes ↔ v.stable = w.stable :=
  Sha256.toUTF8_toList_inj

end Json

/-! ## Plans -/

theorem Props.exact_toJson (p : Props) : p.toJson.Exact :=
  .obj (List.forall_mem_map.mpr fun m _ => .str m.2)

theorem Component.exact_toJson (c : Component) : c.toJson.Exact := by
  induction c using Component.induct with
  | mk kind props children ih =>
    have hin : ∀ x ∈ toJsonAll children, x.Exact := by
      rw [toJsonAll_eq_map]
      exact List.forall_mem_map.mpr ih
    refine .obj ?_
    simp only [List.forall_mem_cons, List.not_mem_nil, false_implies, implies_true, and_true]
    exact ⟨.str _, props.exact_toJson, .arr hin⟩

namespace Plan

theorem exact_toValue (p : Plan) : p.toValue.Exact := by
  have hin : ∀ x ∈ Component.toJsonAll p.components, x.Exact := by
    rw [Component.toJsonAll_eq_map]
    exact List.forall_mem_map.mpr fun c _ => c.exact_toJson
  refine Json.Exact.canon (.obj ?_)
  simp only [List.forall_mem_cons, List.not_mem_nil, false_implies, implies_true, and_true]
  exact ⟨.str _, .arr hin⟩

/-- Plans with the same value are equal, since a plan is decoded from its value. -/
theorem toValue_inj {p q : Plan} : p.toValue = q.toValue ↔ p = q := by
  constructor
  · intro h
    have hp := p.decode_of_holds_toValue _ (Doc.holds_ofJson _)
    rw [h, q.decode_of_holds_toValue _ (Doc.holds_ofJson _)] at hp
    exact (Except.ok.inj hp).symm
  · rintro rfl
    rfl

theorem stable_toValue_inj {p q : Plan} : p.toValue.stable = q.toValue.stable ↔ p = q := by
  rw [Json.stable, Json.stable, canon_toValue, canon_toValue, Json.compact_inj p.exact_toValue q.exact_toValue,
    toValue_inj]

/-- **The stable encoding is canonical and injective.** Two values without floating-point numbers have the same stable
bytes exactly when they are the same value, where the order of members does not count and the order of items does. Two
plans have the same stable bytes exactly when they are equal, and the same fingerprint exactly when these bytes have the
same digest. -/
theorem stable_injective :
    (∀ v w : Json, v.Exact → w.Exact → (v.stableBytes = w.stableBytes ↔ v.Same w)) ∧
    (∀ p q : Plan, p.toValue.stableBytes = q.toValue.stableBytes ↔ p = q) ∧
    (∀ p q : Plan, p.fingerprint = q.fingerprint ↔
      Sha256.digest p.toValue.stableBytes = Sha256.digest q.toValue.stableBytes) := by
  refine ⟨fun v w hv hw => ?_, fun p q => ?_, fun p q => Sha256.hex_eq_hex_iff⟩
  · rw [Json.stableBytes_eq_iff, Json.stable_eq_stable_iff hv hw]
  · rw [Json.stableBytes_eq_iff, stable_toValue_inj]

/-- An object with an array of a number and a text inside, its members out of order. -/
def looseObject : Json := .obj [("b", .arr [.num (.int (-1)), .str "\",\""]), ("a", .obj [])]

/-- The same members in order. -/
def sortedObject : Json := .obj [("a", .obj []), ("b", .arr [.num (.int (-1)), .str "\",\""])]

/-- The same members with the items of the array the other way round. -/
def turnedObject : Json := .obj [("a", .obj []), ("b", .arr [.str "\",\"", .num (.int (-1))])]

theorem stable_injective_members : looseObject.Exact ∧ sortedObject.Exact ∧ turnedObject.Exact ∧
    looseObject.stableBytes = sortedObject.stableBytes ∧ looseObject.stableBytes ≠ turnedObject.stableBytes := by
  have hpair {x y : Json} (hx : x.Exact) (hy : y.Exact) : (Json.arr [x, y]).Exact :=
    .arr (by simp [hx, hy])
  have hmembers {k l : String} {x y : Json} (hx : x.Exact) (hy : y.Exact) : (Json.obj [(k, x), (l, y)]).Exact :=
    .obj (by simp [hx, hy])
  have hempty : (Json.obj []).Exact := .obj (by simp)
  have hloose : looseObject.Exact := hmembers (hpair (.int _) (.str _)) hempty
  have hsorted : sortedObject.Exact := hmembers hempty (hpair (.int _) (.str _))
  have hturned : turnedObject.Exact := hmembers hempty (hpair (.str _) (.int _))
  have hsame : looseObject.Same sortedObject := (Json.canon_eq_canon_iff _).mp rfl
  have hother : ¬ looseObject.Same turnedObject := by
    rw [← Json.canon_eq_canon_iff]
    intro h
    have hb : (looseObject.get? "b").map Json.canon = (turnedObject.get? "b").map Json.canon := by
      rw [← Json.get?_canon, h, Json.get?_canon]
    simp [looseObject, turnedObject, Json.get?, Members.lookup_cons_ite, Json.canon, Json.canonItems] at hb
  exact ⟨hloose, hsorted, hturned, (stable_injective.1 _ _ hloose hsorted).mpr hsame,
    fun h => hother ((stable_injective.1 _ _ hloose hturned).mp h)⟩

end Plan

end Wireframe
