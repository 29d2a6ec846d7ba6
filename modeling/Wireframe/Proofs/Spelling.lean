import Mathlib.Data.List.TakeWhile
import Wireframe.Json.Decode
import Wireframe.Proofs.Scalars

/-!
# Reading what is spelled

A text may spell a value with blanks between its parts. Reading it gives a document that holds the value.

* **Holding** (`Doc.Holds`): a document without faults holds a value, with the members of objects in their order.
* **Spelling** (`Spells`): a text of a value with gaps between its parts; the compact text is one (`spells_write`).
* **Readable values** (`Readable`): the numbers in them are legible, and their containers do not stand too deep.
* **Reading** (`Reader.part_spells`): by induction on the value; the text is at least half as long as there are steps.
* **Whole texts** (`Doc.ofText_spells`, `decodeText_spells`): with gaps before and after.
-/

namespace Wireframe.Json

open Scanner (skipBlanks Stops)
open Reader (part items entries)

/-! ## Documents that hold a value -/

mutual

/-- A document that was read without a fault and holds a value, with the members of objects in their order. -/
inductive Doc.Holds : Json → Doc → Prop
  | null (start stop : Option Mark) : Doc.Holds .null (.scalar start stop (.ok .null))
  | bool (start stop : Option Mark) (b : Bool) : Doc.Holds (.bool b) (.scalar start stop (.ok (.bool b)))
  | num (start stop : Option Mark) (n : Number) : Doc.Holds (.num n) (.scalar start stop (.ok (.num n)))
  | str (start stop : Option Mark) (s : String) : Doc.Holds (.str s) (.scalar start stop (.ok (.str s)))
  | arr (start stop : Option Mark) {vs : List Json} {ds : List Doc} :
      Doc.HoldsItems vs ds → Doc.Holds (.arr vs) (.arr start none ds (.closed stop))
  | obj (start stop : Option Mark) {ms : List (String × Json)} {es : List (Entry Doc)} :
      Doc.HoldsMembers ms es → Doc.Holds (.obj ms) (.obj start none es (.closed stop))

inductive Doc.HoldsItems : List Json → List Doc → Prop
  | nil : Doc.HoldsItems [] []
  | cons {v : Json} {vs : List Json} {d : Doc} {ds : List Doc} :
      Doc.Holds v d → Doc.HoldsItems vs ds → Doc.HoldsItems (v :: vs) (d :: ds)

inductive Doc.HoldsMembers : List (String × Json) → List (Entry Doc) → Prop
  | nil : Doc.HoldsMembers [] []
  | cons (k : String) (after : Option Mark) {v : Json} {ms : List (String × Json)} {d : Doc} {es : List (Entry Doc)} :
      Doc.Holds v d → Doc.HoldsMembers ms es → Doc.HoldsMembers ((k, v) :: ms) (⟨.ok k, after, d⟩ :: es)

end

/-! ## Texts that spell a value -/

/-- Blanks between the parts of a text. -/
def Gap (b : List Char) : Prop := skipBlanks b = []

mutual

/-- A text spells a value, perhaps with blanks between its parts. -/
def Spells : Json → List Char → Prop
  | .null, t => t = ['n', 'u', 'l', 'l']
  | .bool true, t => t = ['t', 'r', 'u', 'e']
  | .bool false, t => t = ['f', 'a', 'l', 's', 'e']
  | .num n, t => t = writeNumber n
  | .str s, t => t = quoted s
  | .arr vs, t => ∃ a u, Gap a ∧ SpellsItems vs u ∧ t = '[' :: (a ++ u)
  | .obj ms, t => ∃ a u, Gap a ∧ SpellsMembers ms u ∧ t = '{' :: (a ++ u)

def SpellsItems : List Json → List Char → Prop
  | [], t => t = [']']
  | [v], t => ∃ u a, Spells v u ∧ Gap a ∧ t = u ++ (a ++ [']'])
  | v :: w :: r, t => ∃ u a b t', Spells v u ∧ Gap a ∧ Gap b ∧ SpellsItems (w :: r) t' ∧
      t = u ++ (a ++ ',' :: (b ++ t'))

def SpellsMembers : List (String × Json) → List Char → Prop
  | [], t => t = ['}']
  | [(k, v)], t => ∃ u a b c, Spells v u ∧ Gap a ∧ Gap b ∧ Gap c ∧
      t = quoted k ++ (a ++ ':' :: (b ++ (u ++ (c ++ ['}']))))
  | (k, v) :: m :: r, t => ∃ u a b c d t', Spells v u ∧ Gap a ∧ Gap b ∧ Gap c ∧ Gap d ∧ SpellsMembers (m :: r) t' ∧
      t = quoted k ++ (a ++ ':' :: (b ++ (u ++ (c ++ ',' :: (d ++ t')))))

end

theorem gap_nil : Gap [] := rfl

mutual

theorem spells_write : (v : Json) → v.Spells v.write
  | .null => rfl
  | .bool true => rfl
  | .bool false => rfl
  | .num _ => rfl
  | .str _ => rfl
  | .arr vs => ⟨[], writeItems vs ++ [']'], gap_nil, spellsItems_writeItems vs, rfl⟩
  | .obj ms => ⟨[], writeMembers ms ++ ['}'], gap_nil, spellsMembers_writeMembers ms, rfl⟩

theorem spellsItems_writeItems : (vs : List Json) → SpellsItems vs (writeItems vs ++ [']'])
  | [] => rfl
  | [v] => ⟨v.write, [], spells_write v, gap_nil, rfl⟩
  | v :: w :: r => ⟨v.write, [], [], _, spells_write v, gap_nil, gap_nil, spellsItems_writeItems (w :: r), by
      simp [writeItems]⟩

theorem spellsMembers_writeMembers : (ms : List (String × Json)) → SpellsMembers ms (writeMembers ms ++ ['}'])
  | [] => rfl
  | [(k, v)] => ⟨v.write, [], [], [], spells_write v, gap_nil, gap_nil, gap_nil, by simp [writeMembers]⟩
  | (k, v) :: m :: r => ⟨v.write, [], [], [], [], _, spells_write v, gap_nil, gap_nil, gap_nil, gap_nil,
      spellsMembers_writeMembers (m :: r), by simp [writeMembers]⟩

end

theorem spells_compact (v : Json) : v.Spells v.compact.toList := by
  rw [compact, String.toList_ofList]
  exact spells_write v

/-! ## Values that can be read -/

/-- A number that is read as itself in front of whatever does not go on with it. -/
structure Legible (n : Number) : Prop where
  head : ∃ c t, writeNumber n = c :: t ∧ (c = '-' ∨ Scanner.isDigit c = true)
  read : ∀ s, Stops s → ∃ start stop, Reader.numberDoc (writeNumber n ++ s) = (.scalar start stop (.ok (.num n)), s)

mutual

/-- A value whose numbers are legible and in which no more than `room` containers stand in each other. -/
def Readable : Json → Nat → Prop
  | .null, _ => True
  | .bool _, _ => True
  | .num n, _ => Legible n
  | .str _, _ => True
  | .arr vs, room => 0 < room ∧ ReadableItems vs (room - 1)
  | .obj ms, room => 0 < room ∧ ReadableMembers ms (room - 1)

def ReadableItems : List Json → Nat → Prop
  | [], _ => True
  | v :: vs, room => v.Readable room ∧ ReadableItems vs room

def ReadableMembers : List (String × Json) → Nat → Prop
  | [], _ => True
  | (_, v) :: ms, room => v.Readable room ∧ ReadableMembers ms room

end

theorem readableItems_iff {vs : List Json} {room : Nat} : ReadableItems vs room ↔ ∀ v ∈ vs, v.Readable room := by
  induction vs with
  | nil => simp [ReadableItems]
  | cons v vs ih => rw [ReadableItems, ih, List.forall_mem_cons]

theorem readableMembers_iff {ms : List (String × Json)} {room : Nat} :
    ReadableMembers ms room ↔ ∀ m ∈ ms, m.2.Readable room := by
  induction ms with
  | nil => simp [ReadableMembers]
  | cons m ms ih => rw [ReadableMembers, ih, List.forall_mem_cons]

/-! ## Gaps and ends -/

namespace Scanner

/-- Blanks of texts. -/
def blankSigns : List Char := [' ', '\n', '\t', '\r']

theorem skipBlanks_gap {a : List Char} (ha : Gap a) (s : List Char) : skipBlanks (a ++ s) = skipBlanks s :=
  List.dropWhile_append_of_pos (List.dropWhile_eq_nil_iff.mp ha)

theorem skipBlanks_cons {c : Char} (hc : c ∉ blankSigns) (s : List Char) : skipBlanks (c :: s) = c :: s := by
  simp only [blankSigns, List.mem_cons, List.not_mem_nil, or_false, not_or] at hc
  simp [skipBlanks, hc]

theorem stops_gap {a : List Char} (ha : Gap a) {s : List Char} (hs : Stops s) : Stops (a ++ s) := by
  cases a with
  | nil => exact hs
  | cons c a =>
    intro d hd
    have hc := List.dropWhile_eq_nil_iff.mp ha c List.mem_cons_self
    have hcd : c = d := by simpa using hd
    subst hcd
    simp only [Bool.or_eq_true, decide_eq_true_eq] at hc
    rcases hc with ((rfl | rfl) | rfl) | rfl <;> decide

end Scanner

open Scanner (blankSigns)

/-- A readable value is spelled from a character on that is no blank and ends no list. -/
theorem Spells.head {v : Json} {t : List Char} {room : Nat} (h : v.Spells t) (hr : v.Readable room) :
    ∃ c u, t = c :: u ∧ c ∉ blankSigns ∧ c ≠ ']' := by
  match v, h, hr with
  | .null, h, _ => exact ⟨_, _, h, by decide, by decide⟩
  | .bool true, h, _ => exact ⟨_, _, h, by decide, by decide⟩
  | .bool false, h, _ => exact ⟨_, _, h, by decide, by decide⟩
  | .str _, h, _ => exact ⟨_, _, h, by decide, by decide⟩
  | .arr _, ⟨a, u, _, _, h⟩, _ => exact ⟨_, _, h, by decide, by decide⟩
  | .obj _, ⟨a, u, _, _, h⟩, _ => exact ⟨_, _, h, by decide, by decide⟩
  | .num n, h, hr =>
    obtain ⟨c, u, hw, hc⟩ := hr.head
    refine ⟨c, u, h.trans hw, ?_, ?_⟩
    · intro hm
      simp only [blankSigns, List.mem_cons, List.not_mem_nil, or_false] at hm
      rcases hm with rfl | rfl | rfl | rfl <;> revert hc <;> decide
    · rintro rfl
      revert hc
      decide

theorem SpellsItems.head {v : Json} {vs : List Json} {t : List Char} {room : Nat} (h : SpellsItems (v :: vs) t)
    (hr : ReadableItems (v :: vs) room) : ∃ c u, t = c :: u ∧ c ∉ blankSigns ∧ c ≠ ']' := by
  have hfront : ∃ u w, v.Spells u ∧ t = u ++ w := by
    cases vs with
    | nil =>
      obtain ⟨u, a, hu, _, ht⟩ := h
      exact ⟨u, _, hu, ht⟩
    | cons w r =>
      obtain ⟨u, a, b, t', hu, _, _, _, ht⟩ := h
      exact ⟨u, _, hu, ht⟩
  obtain ⟨u, w, hu, rfl⟩ := hfront
  obtain ⟨c, u', rfl, hblank, hend⟩ := hu.head hr.1
  exact ⟨c, u' ++ w, rfl, hblank, hend⟩

theorem SpellsMembers.head {m : String × Json} {ms : List (String × Json)} {t : List Char}
    (h : SpellsMembers (m :: ms) t) : ∃ u, t = '"' :: u := by
  cases ms with
  | nil =>
    obtain ⟨u, a, b, c, _, _, _, _, rfl⟩ := h
    exact ⟨_, rfl⟩
  | cons n r =>
    obtain ⟨u, a, b, c, d, t', _, _, _, _, _, _, rfl⟩ := h
    exact ⟨_, rfl⟩

/-! ## Steps of the reader -/

namespace Reader

variable {depth fuel : Nat} {s s₁ s₂ s₃ r : List Char} {c : Char} {d : Doc} {ds : List Doc} {es : List (Entry Doc)}
  {e : Ending} {key : Except Fault String}

/-- A number starts with a sign or a digit. -/
theorem part_number (hc : c = '-' ∨ Scanner.isDigit c = true) :
    part depth (fuel + 1) (c :: s) = numberDoc (c :: s) := by
  have hother : ['[', '{', '"', 'n', 't', 'f'].all (fun x => x != '-' && !Scanner.isDigit x) = true := by decide
  have hne : ∀ x ∈ ['[', '{', '"', 'n', 't', 'f'], c ≠ x := by
    rintro x hx rfl
    have hc' := List.all_eq_true.mp hother c hx
    rw [Bool.and_eq_true, bne_iff_ne, Bool.not_eq_true'] at hc'
    rcases hc with hc | hc
    · exact hc'.1 hc
    · exact Bool.false_ne_true (hc'.2.symm.trans hc)
  simp only [List.forall_mem_cons] at hne
  rw [part.eq_def]
  simp [hne, hc]

theorem part_arr_nil (depth fuel : Nat) (h : skipBlanks s = ']' :: r) : part depth (fuel + 1) ('[' :: s) =
    (.arr (some (.here ('[' :: s))) (tooDeep? depth ('[' :: s)) [] (.closed (some (.here (']' :: r)))), r) := by
  rw [part.eq_def]
  simp [h]

theorem part_arr_cons (depth : Nat) (h : skipBlanks s = c :: s₁) (hc : c ≠ ']')
    (hi : items (depth + 1) fuel (c :: s₁) = (ds, e, r)) : part depth (fuel + 1) ('[' :: s) =
    (.arr (some (.here ('[' :: s))) (tooDeep? depth ('[' :: s)) ds e, r) := by
  rw [part.eq_def]
  simp [h, hc, hi]

theorem part_obj_nil (depth fuel : Nat) (h : skipBlanks s = '}' :: r) : part depth (fuel + 1) ('{' :: s) =
    (.obj (some (.here ('{' :: s))) (tooDeep? depth ('{' :: s)) [] (.closed (some (.here ('}' :: r)))), r) := by
  rw [part.eq_def]
  simp [h]

theorem part_obj_cons (depth : Nat) (h : skipBlanks s = '"' :: s₁) (hi : entries (depth + 1) fuel s₁ = (es, e, r)) :
    part depth (fuel + 1) ('{' :: s) =
    (.obj (some (.here ('{' :: s))) (tooDeep? depth ('{' :: s)) es e, r) := by
  rw [part.eq_def]
  simp [h, hi]

theorem items_last (hd : part depth fuel s = (d, s₁)) (h : skipBlanks s₁ = ']' :: r) :
    items depth (fuel + 1) s = ([d], .closed (some (.here (']' :: r))), r) := by
  rw [items.eq_def]
  simp [hd, h]

theorem items_more (hd : part depth fuel s = (d, s₁)) (h : skipBlanks s₁ = ',' :: s₂) (h' : skipBlanks s₂ = c :: s₃)
    (hc : c ≠ ']') (hi : items depth fuel (c :: s₃) = (ds, e, r)) : items depth (fuel + 1) s = (d :: ds, e, r) := by
  rw [items.eq_def]
  simp [hd, h, h', hc, hi]

theorem entries_last (hk : textParts s = .ok (key, s₁)) (h : skipBlanks s₁ = ':' :: s₂)
    (hd : part depth fuel (skipBlanks s₂) = (d, s₃)) (h' : skipBlanks s₃ = '}' :: r) :
    entries depth (fuel + 1) s = ([⟨key, some (.here s₁), d⟩], .closed (some (.here ('}' :: r))), r) := by
  rw [entries.eq_def]
  simp [hk, h, hd, h']

theorem entries_more {s₄ s₅ : List Char} (hk : textParts s = .ok (key, s₁)) (h : skipBlanks s₁ = ':' :: s₂)
    (hd : part depth fuel (skipBlanks s₂) = (d, s₃)) (h' : skipBlanks s₃ = ',' :: s₄)
    (h'' : skipBlanks s₄ = '"' :: s₅) (hi : entries depth fuel s₅ = (es, e, r)) :
    entries depth (fuel + 1) s = (⟨key, some (.here s₁), d⟩ :: es, e, r) := by
  rw [entries.eq_def]
  simp [hk, h, hd, h', h'', hi]

/-! ## Reading what is spelled -/

theorem tooDeep?_eq_none (h : depth + 1 < depthLimit) (s : List Char) : tooDeep? depth s = none :=
  if_neg (Nat.not_le.mpr h)

theorem textParts_quoted (k : String) (s : List Char) :
    textParts (k.toList.flatMap escapeChar ++ '"' :: s) = .ok (.ok k, s) := by
  rw [textParts, Scanner.text_quoted]
  simp

theorem part_quoted (k : String) (s : List Char) : part depth (fuel + 1) (quoted k ++ s) =
    (.scalar (some (.here (quoted k ++ s))) (some (.here s)) (.ok (.str k)), s) := by
  have hq : quoted k ++ s = '"' :: (k.toList.flatMap escapeChar ++ '"' :: s) := by simp [quoted]
  have hp : part depth (fuel + 1) (quoted k ++ s) =
      textDoc (quoted k ++ s) (k.toList.flatMap escapeChar ++ '"' :: s) := by
    rw [hq]
    rfl
  rw [hp, textDoc, textParts_quoted]
  rfl

theorem stops_sign {c : Char} (hc : c ∈ [',', ']', '}']) (s : List Char) : Stops (c :: s) := by
  intro d hd
  have hcd : c = d := by simpa using hd
  subst hcd
  simp only [List.mem_cons, List.not_mem_nil, or_false] at hc
  rcases hc with rfl | rfl | rfl <;> decide

theorem skipBlanks_colon {a b u : List Char} {v : Json} {room : Nat} (ha : Gap a) (hb : Gap b) (hu : v.Spells u)
    (hv : v.Readable room) (s : List Char) :
    skipBlanks (a ++ ':' :: (b ++ (u ++ s))) = ':' :: (b ++ (u ++ s)) ∧ skipBlanks (b ++ (u ++ s)) = u ++ s := by
  obtain ⟨c, u', rfl, hblank, _⟩ := hu.head hv
  constructor
  · rw [Scanner.skipBlanks_gap ha, Scanner.skipBlanks_cons (by decide)]
  · rw [Scanner.skipBlanks_gap hb, List.cons_append, Scanner.skipBlanks_cons hblank]

/-- There is a step for each character of a text, and one more. -/
theorem exists_step {c : Char} {u : List Char} {fuel : Nat} (h : 2 * (c :: u).length ≤ fuel) :
    ∃ f, fuel = f + 1 ∧ 2 * u.length < f :=
  ⟨fuel - 1, by simp only [List.length_cons] at h; omega, by simp only [List.length_cons] at h; omega⟩

mutual

/-- A readable value is read from the front of a text that spells it. -/
theorem part_spells : (v : Json) → ∀ (depth fuel : Nat) (rest : List Char) {t : List Char} {room : Nat},
    v.Spells t → v.Readable room → depth + room < depthLimit → 2 * t.length ≤ fuel → Stops rest →
    ∃ d, part depth fuel (t ++ rest) = (d, rest) ∧ Doc.Holds v d
  | .null, depth, fuel, rest, t, room, ht, _, _, hf, _ => by
    cases (ht : t = _)
    obtain ⟨f, rfl, _⟩ := exists_step hf
    exact ⟨_, rfl, .null _ _⟩
  | .bool true, depth, fuel, rest, t, room, ht, _, _, hf, _ => by
    cases (ht : t = _)
    obtain ⟨f, rfl, _⟩ := exists_step hf
    exact ⟨_, rfl, .bool _ _ true⟩
  | .bool false, depth, fuel, rest, t, room, ht, _, _, hf, _ => by
    cases (ht : t = _)
    obtain ⟨f, rfl, _⟩ := exists_step hf
    exact ⟨_, rfl, .bool _ _ false⟩
  | .num n, depth, fuel, rest, t, room, ht, hr, _, hf, hs => by
    obtain ⟨c, u, hw, hc⟩ := hr.head
    obtain ⟨start, stop, hn⟩ := hr.read rest hs
    cases (ht.trans hw : t = c :: u)
    obtain ⟨f, rfl, _⟩ := exists_step hf
    rw [hw] at hn
    exact ⟨_, by rw [List.cons_append, part_number hc, ← List.cons_append, hn], .num start stop n⟩
  | .str k, depth, fuel, rest, t, room, ht, _, _, hf, _ => by
    cases (ht : t = _)
    obtain ⟨f, rfl, _⟩ := exists_step hf
    exact ⟨_, part_quoted k rest, .str _ _ k⟩
  | .arr [], depth, fuel, rest, t, room, ⟨a, u, ha, hu, ht⟩, ⟨hroom, _⟩, hdeep, hf, _ => by
    cases ht
    cases (hu : u = _)
    obtain ⟨f, rfl, _⟩ := exists_step hf
    have hnil : skipBlanks (a ++ (']' :: rest)) = ']' :: rest := by
      rw [Scanner.skipBlanks_gap ha, Scanner.skipBlanks_cons (by decide)]
    have hp := part_arr_nil depth f hnil
    rw [tooDeep?_eq_none (by omega)] at hp
    exact ⟨_, by simpa using hp, .arr _ _ .nil⟩
  | .arr (v :: vs), depth, fuel, rest, t, room, ⟨a, u, ha, hu, ht⟩, ⟨hroom, hr⟩, hdeep, hf, _ => by
    cases ht
    obtain ⟨f, rfl, hf'⟩ := exists_step hf
    obtain ⟨c, u', rfl, hblank, hend⟩ := SpellsItems.head hu hr
    have hcons : skipBlanks (a ++ (c :: u' ++ rest)) = c :: (u' ++ rest) := by
      rw [Scanner.skipBlanks_gap ha, List.cons_append, Scanner.skipBlanks_cons hblank]
    obtain ⟨ds, stop, hitems, hds⟩ := items_spells (v :: vs) (by simp) (depth + 1) f rest hu hr (by omega)
      (by simp only [List.length_append] at hf'; omega)
    have hp := part_arr_cons depth hcons hend hitems
    rw [tooDeep?_eq_none (by omega)] at hp
    exact ⟨_, by simpa using hp, .arr _ _ hds⟩
  | .obj [], depth, fuel, rest, t, room, ⟨a, u, ha, hu, ht⟩, ⟨hroom, _⟩, hdeep, hf, _ => by
    cases ht
    cases (hu : u = _)
    obtain ⟨f, rfl, _⟩ := exists_step hf
    have hnil : skipBlanks (a ++ ('}' :: rest)) = '}' :: rest := by
      rw [Scanner.skipBlanks_gap ha, Scanner.skipBlanks_cons (by decide)]
    have hp := part_obj_nil depth f hnil
    rw [tooDeep?_eq_none (by omega)] at hp
    exact ⟨_, by simpa using hp, .obj _ _ .nil⟩
  | .obj ((k, v) :: ms), depth, fuel, rest, t, room, ⟨a, u, ha, hu, ht⟩, ⟨hroom, hr⟩, hdeep, hf, _ => by
    cases ht
    obtain ⟨f, rfl, hf'⟩ := exists_step hf
    obtain ⟨u', rfl⟩ := SpellsMembers.head hu
    have hcons : skipBlanks (a ++ ('"' :: u' ++ rest)) = '"' :: (u' ++ rest) := by
      rw [Scanner.skipBlanks_gap ha, List.cons_append, Scanner.skipBlanks_cons (by decide)]
    obtain ⟨es, stop, hentries, hes⟩ := entries_spells ((k, v) :: ms) (by simp) (depth + 1) f rest hu hr (by omega)
      (by simp only [List.length_append, List.length_cons] at hf'; omega)
    have hp := part_obj_cons depth hcons hentries
    rw [tooDeep?_eq_none (by omega)] at hp
    exact ⟨_, by simpa using hp, .obj _ _ hes⟩

theorem items_spells : (vs : List Json) → vs ≠ [] →
    ∀ (depth fuel : Nat) (rest : List Char) {t : List Char} {room : Nat},
    SpellsItems vs t → ReadableItems vs room → depth + room < depthLimit → 2 * t.length ≤ fuel →
    ∃ ds stop, items depth fuel (t ++ rest) = (ds, .closed stop, rest) ∧ Doc.HoldsItems vs ds
  | [], hne, _, _, _, _, _, _, _, _, _ => absurd rfl hne
  | [v], _, depth, fuel, rest, t, room, ⟨u, a, hu, ha, ht⟩, ⟨hv, _⟩, hdeep, hf => by
    cases ht
    simp only [List.length_append, List.length_cons, List.length_nil] at hf
    obtain ⟨f, rfl⟩ : ∃ f, fuel = f + 1 := ⟨fuel - 1, by omega⟩
    have hs : Stops (a ++ (']' :: rest)) := Scanner.stops_gap ha (stops_sign (by decide) rest)
    obtain ⟨d, hd, hh⟩ := part_spells v depth f _ hu hv hdeep (by omega) hs
    have hend : skipBlanks (a ++ (']' :: rest)) = ']' :: rest := by
      rw [Scanner.skipBlanks_gap ha, Scanner.skipBlanks_cons (by decide)]
    exact ⟨_, _, by simpa using items_last hd hend, .cons hh .nil⟩
  | v :: w :: r, _, depth, fuel, rest, t, room, ⟨u, a, b, t', hu, ha, hb, ht', ht⟩, ⟨hv, hr⟩, hdeep, hf => by
    cases ht
    simp only [List.length_append, List.length_cons] at hf
    obtain ⟨f, rfl⟩ : ∃ f, fuel = f + 1 := ⟨fuel - 1, by omega⟩
    -- the comma pays for the step of the items themselves, so the item and those after it have steps enough
    have hs : Stops (a ++ (',' :: (b ++ (t' ++ rest)))) := Scanner.stops_gap ha (stops_sign (by decide) _)
    obtain ⟨d, hd, hh⟩ := part_spells v depth f _ hu hv hdeep (by omega) hs
    obtain ⟨ds, stop, hitems, hds⟩ := items_spells (w :: r) (by simp) depth f rest ht' hr hdeep (by omega)
    obtain ⟨c, u', rfl, hblank, hend⟩ := SpellsItems.head ht' hr
    have hcomma : skipBlanks (a ++ (',' :: (b ++ (c :: u' ++ rest)))) = ',' :: (b ++ (c :: u' ++ rest)) := by
      rw [Scanner.skipBlanks_gap ha, Scanner.skipBlanks_cons (by decide)]
    have hnext : skipBlanks (b ++ (c :: u' ++ rest)) = c :: (u' ++ rest) := by
      rw [Scanner.skipBlanks_gap hb, List.cons_append, Scanner.skipBlanks_cons hblank]
    exact ⟨_, stop, by simpa using items_more hd hcomma hnext hend hitems, .cons hh hds⟩

theorem entries_spells : (ms : List (String × Json)) → ms ≠ [] →
    ∀ (depth fuel : Nat) (rest : List Char) {t : List Char} {room : Nat},
    SpellsMembers ms ('"' :: t) → ReadableMembers ms room → depth + room < depthLimit → 2 * t.length ≤ fuel →
    ∃ es stop, entries depth fuel (t ++ rest) = (es, .closed stop, rest) ∧ Doc.HoldsMembers ms es
  | [], hne, _, _, _, _, _, _, _, _, _ => absurd rfl hne
  | [(k, v)], _, depth, fuel, rest, t, room, ⟨u, a, b, c, hu, ha, hb, hc, ht⟩, ⟨hv, _⟩, hdeep, hf => by
    obtain rfl : t = k.toList.flatMap escapeChar ++ '"' :: (a ++ ':' :: (b ++ (u ++ (c ++ ['}'])))) := by
      simpa [quoted] using ht
    simp only [List.length_append, List.length_cons, List.length_nil] at hf
    obtain ⟨f, rfl⟩ : ∃ f, fuel = f + 1 := ⟨fuel - 1, by omega⟩
    have hs : Stops (c ++ ('}' :: rest)) := Scanner.stops_gap hc (stops_sign (by decide) rest)
    obtain ⟨d, hd, hh⟩ := part_spells v depth f _ hu hv hdeep (by omega) hs
    obtain ⟨hcolon, hvalue⟩ := skipBlanks_colon ha hb hu hv (c ++ ('}' :: rest))
    have hend : skipBlanks (c ++ ('}' :: rest)) = '}' :: rest := by
      rw [Scanner.skipBlanks_gap hc, Scanner.skipBlanks_cons (by decide)]
    exact ⟨_, _, by simpa using entries_last (textParts_quoted k _) hcolon (by rw [hvalue, hd]) hend, .cons k _ hh .nil⟩
  | (k, v) :: m :: r, _, depth, fuel, rest, t, room, ⟨u, a, b, c, d, t', hu, ha, hb, hc, hd, ht', ht⟩, ⟨hv, hr⟩,
      hdeep, hf => by
    obtain ⟨u', rfl⟩ := SpellsMembers.head ht'
    obtain rfl : t = k.toList.flatMap escapeChar ++
        '"' :: (a ++ ':' :: (b ++ (u ++ (c ++ ',' :: (d ++ '"' :: u'))))) := by
      simpa [quoted] using ht
    simp only [List.length_append, List.length_cons] at hf
    obtain ⟨f, rfl⟩ : ∃ f, fuel = f + 1 := ⟨fuel - 1, by omega⟩
    have hs : Stops (c ++ (',' :: (d ++ '"' :: (u' ++ rest)))) := Scanner.stops_gap hc (stops_sign (by decide) _)
    obtain ⟨x, hx, hh⟩ := part_spells v depth f _ hu hv hdeep (by omega) hs
    obtain ⟨es, stop, hentries, hes⟩ := entries_spells (m :: r) (by simp) depth f rest ht' hr hdeep (by omega)
    obtain ⟨hcolon, hvalue⟩ := skipBlanks_colon ha hb hu hv (c ++ (',' :: (d ++ '"' :: (u' ++ rest))))
    have hcomma : skipBlanks (c ++ (',' :: (d ++ '"' :: (u' ++ rest)))) = ',' :: (d ++ '"' :: (u' ++ rest)) := by
      rw [Scanner.skipBlanks_gap hc, Scanner.skipBlanks_cons (by decide)]
    have hnext : skipBlanks (d ++ '"' :: (u' ++ rest)) = '"' :: (u' ++ rest) := by
      rw [Scanner.skipBlanks_gap hd, Scanner.skipBlanks_cons (by decide)]
    have he := entries_more (textParts_quoted k _) hcolon (by rw [hvalue, hx]) hcomma hnext hentries
    exact ⟨_, stop, by simpa using he, .cons k _ hh hes⟩

end

theorem legible_int {i : Int} (hi : Fits64 i) : Legible (.int i) where
  head := by
    rw [writeNumber, writeInt]
    split
    · exact ⟨_, _, rfl, .inl rfl⟩
    · cases hds : Nat.toDigits 10 i.natAbs with
      | nil => exact absurd hds Nat.toDigits_ne_nil
      | cons c ds => exact ⟨c, ds, rfl, .inr (Scanner.isDigit_of_mem_toDigits (by rw [hds]; exact List.mem_cons_self))⟩
  read s hs := by
    obtain ⟨start, h⟩ := numberDoc_writeInt hi hs
    exact ⟨start, _, h⟩

end Reader

/-! ## Whole texts -/

/-- A readable value is read from a text that spells it, with gaps around. -/
theorem Doc.ofText_spells {v : Json} {t a b : List Char} {room : Nat} (ht : v.Spells t) (hr : v.Readable room)
    (hroom : room < Reader.depthLimit) (ha : Gap a) (hb : Stops b) :
    ∃ d, Doc.ofText (a ++ (t ++ b)) = (d, b) ∧ Doc.Holds v d := by
  obtain ⟨c, u, rfl, hblank, _⟩ := ht.head hr
  have hskip : skipBlanks (a ++ (c :: u ++ b)) = c :: u ++ b := by
    rw [Scanner.skipBlanks_gap ha, List.cons_append, Scanner.skipBlanks_cons hblank]
  obtain ⟨d, hd, hh⟩ := Reader.part_spells v 0 (2 * (c :: u ++ b).length + 2) b ht hr (by omega)
    (by simp only [List.length_append]; omega) hb
  exact ⟨d, by rw [Doc.ofText, hskip]; exact hd, hh⟩

/-- A typed value is read from the text of a value when it is read from every document that holds the value. -/
theorem decodeText_spells {α : Type} {decode : Decoder α} {x : α} {v : Json}
    (hx : ∀ d, Doc.Holds v d → decode d = .ok x) {t a b : List Char} {room : Nat} (ht : v.Spells t)
    (hr : v.Readable room) (hroom : room < Reader.depthLimit) (ha : Gap a) (hb : Gap b) :
    decodeText decode (String.ofList (a ++ (t ++ b))) = .ok x := by
  have hstops : Stops b := by simpa using Scanner.stops_gap hb (s := []) (by simp [Stops])
  obtain ⟨d, hd, hh⟩ := Doc.ofText_spells ht hr hroom ha hstops
  have hend : checkEnd b = .ok () := by
    rw [checkEnd, hb]
  rw [decodeText, String.toList_ofList, hd]
  simp [hx d hh, hend, orFault, bind, Except.bind, pure, Except.pure]

end Wireframe.Json
