import Wireframe.Limits
import Wireframe.Proofs.Decoding
import Wireframe.Proofs.Lines

/-!
# Lines of a history

* **Compact texts** (`Json.printed_write`): no control characters, so an entry has no line feed but the one at the end
  of its line (`Entry.line_eq`).
* **Entries** (`Entry.Kept`): a shallow plan with a version of 64 bits is read back from its line (`Entry.Kept.ofLine`).
* **Reading** (`readLines_append`): line by line.
-/

namespace Wireframe

open Json (Gap Spells)

/-! ## Characters of a compact text -/

namespace Json

/-- A text without control characters. -/
def Printed (s : List Char) : Prop := ∀ c ∈ s, 0x20 ≤ c.toNat

@[simp] theorem printed_nil : Printed [] := by
  simp [Printed]

@[simp] theorem printed_cons {c : Char} {s : List Char} : Printed (c :: s) ↔ 0x20 ≤ c.toNat ∧ Printed s :=
  List.forall_mem_cons

@[simp] theorem printed_append {s t : List Char} : Printed (s ++ t) ↔ Printed s ∧ Printed t :=
  List.forall_mem_append

@[simp] theorem printed_ite {p : Prop} [Decidable p] {s t : List Char} :
    Printed (if p then s else t) ↔ (p → Printed s) ∧ (¬p → Printed t) := by
  split <;> simp [*]

theorem printed_escapeChar (c : Char) : Printed (escapeChar c) := by
  have hdigit : ∀ n < 16, 0x20 ≤ (hexDigit n).toNat := by decide
  unfold escapeChar
  split_ifs with _ _ _ _ _ _ _ hc
  any_goals simp
  · exact ⟨hdigit _ (by omega), hdigit _ (by omega)⟩
  · exact Nat.not_lt.mp hc

theorem printed_quoted (s : String) : Printed (quoted s) := by
  have hs : Printed (s.toList.flatMap escapeChar) := fun c hc => by
    obtain ⟨d, _, hd⟩ := List.mem_flatMap.mp hc
    exact printed_escapeChar d c hd
  simp [quoted, hs]

theorem printed_toDigits (n : Nat) : Printed (Nat.toDigits 10 n) := by
  intro c hc
  have h := Scanner.isDigit_of_mem_toDigits hc
  simp only [Scanner.isDigit, Bool.and_eq_true, decide_eq_true_eq] at h
  have h0 : 48 ≤ c.toNat := h.1
  omega

theorem printed_layout (n : Nat) (place : Int) : Printed (Binary64.layout.write n place) := by
  have hd := printed_toDigits n
  have htake : ∀ k, Printed ((Nat.toDigits 10 n).take k) := fun k c hc => hd c (List.mem_of_mem_take hc)
  have hdrop : ∀ k, Printed ((Nat.toDigits 10 n).drop k) := fun k c hc => hd c (List.mem_of_mem_drop hc)
  have hzeros : ∀ k, Printed (List.replicate k '0') := fun k c hc => by
    rw [(List.mem_replicate.mp hc).2]
    decide
  simp [Binary64.DecimalLayout.write, Binary64.layout, hd, htake, hdrop, hzeros, printed_toDigits, -List.drop_one]

theorem printed_writeNumber : (n : Number) → Printed (writeNumber n)
  | .int i => by
    simp [writeNumber, writeInt, printed_toDigits]
  | .float x => by
    simp [writeNumber, Binary64.text, printed_layout]

mutual

/-- The compact text of a value has no control characters. -/
theorem printed_write : (v : Json) → Printed v.write
  | .null => by simp [write]
  | .bool true => by simp [write]
  | .bool false => by simp [write]
  | .num n => printed_writeNumber n
  | .str s => printed_quoted s
  | .arr vs => by simp [write, printed_writeItems vs]
  | .obj ms => by simp [write, printed_writeMembers ms]

theorem printed_writeItems : (vs : List Json) → Printed (writeItems vs)
  | [] => printed_nil
  | [v] => printed_write v
  | v :: w :: r => by simp [writeItems, printed_write v, printed_writeItems (w :: r)]

theorem printed_writeMembers : (ms : List (String × Json)) → Printed (writeMembers ms)
  | [] => printed_nil
  | [(k, v)] => by simp [writeMembers, printed_quoted, printed_write v]
  | (k, v) :: m :: r => by simp [writeMembers, printed_quoted, printed_write v, printed_writeMembers (m :: r)]

end

end Json

/-! ## Values of plans and entries -/

theorem Json.Reader.legible_count {n : Nat} (h : n ≤ Limits.greatestCount) : Json.Legible (.int n) := by
  norm_num [Limits.greatestCount] at h
  refine legible_int ⟨?_, ?_⟩
  · norm_num
  · norm_num
    omega

/-- Texts need room for one container. -/
theorem Props.readable_toJson (p : Props) {room : Nat} (h : 0 < room) : p.toJson.Readable room :=
  ⟨h, Json.readableMembers_iff.mpr (List.forall_mem_map.mpr fun _ _ => trivial)⟩

namespace Component

theorem readableItems_toJsonAll {cs : List Component} {room : Nat} (h : ∀ c ∈ cs, c.toJson.Readable room) :
    Json.ReadableItems (toJsonAll cs) room := by
  rw [toJsonAll_eq_map]
  exact Json.readableItems_iff.mpr (List.forall_mem_map.mpr h)

/-- A component needs room for two containers at each level. -/
theorem readable_toJson (c : Component) : ∀ {room : Nat}, 2 * c.depth + 2 ≤ room → c.toJson.Readable room := by
  induction c using Component.induct with
  | mk kind props children ih =>
    intro room h
    have hprops : props.toJson.Readable (room - 1) := props.readable_toJson (by omega)
    have hchildren : Json.ReadableItems (toJsonAll children) (room - 1 - 1) := by
      refine readableItems_toJsonAll fun c hc => ih c hc ?_
      have hlt := depth_lt_height hc
      rw [depth] at h
      omega
    exact ⟨by omega, trivial, hprops, ⟨by omega, hchildren⟩, trivial⟩

end Component

namespace Plan

/-- A plan that stays within the depth of documents with room to spare. -/
def Shallow (p : Plan) : Prop := ∀ n, p.maxDepth = some n → n ≤ 50

instance : DecidablePred Shallow := fun p => inferInstanceAs (Decidable (∀ n ∈ p.maxDepth, n ≤ 50))

theorem Shallow.readable_toJson {p : Plan} (h : p.Shallow) {room : Nat} (hroom : 104 ≤ room) :
    p.toJson.Readable room := by
  have hc : Json.ReadableItems (Component.toJsonAll p.components) (room - 1 - 1) := by
    refine Component.readableItems_toJsonAll fun c hc => c.readable_toJson ?_
    have hle := depth_le_of_mem h hc
    omega
  exact ⟨by omega, trivial, ⟨by omega, hc⟩, trivial⟩

end Plan

namespace History

/-! ## Lines of entries -/

/-- An entry whose line can be read back: its version has 64 bits, and its plan is shallow. -/
structure Entry.Kept (e : Entry) : Prop where
  version : e.version ≤ Limits.greatestCount
  plan : e.plan.Shallow

theorem Entry.Kept.readable_toJson {e : Entry} (h : e.Kept) : e.toJson.Readable 105 :=
  ⟨by decide, Json.Reader.legible_count h.version, trivial, trivial, h.plan.readable_toJson (by decide), trivial⟩

theorem Entry.exists_write (e : Entry) : ∃ s, e.toJson.write = s ++ ['}'] := ⟨'{' :: Json.writeMembers _, rfl⟩

/-- The only line feed of a line is its last character. -/
theorem Entry.line_eq (e : Entry) : e.line.toList = e.toJson.write ++ ['\n'] ∧ '\n' ∉ e.toJson.write := by
  refine ⟨by simp [Entry.line, Json.compact], fun h => ?_⟩
  have := Json.printed_write e.toJson '\n' h
  revert this
  decide

/-- A line is one line of text, whatever stands in front of its entry on the same line. -/
theorem Entry.lines_append_line (e : Entry) {s : List Char} (hs : '\n' ∉ s) :
    Text.lines (s ++ e.line.toList) = [s ++ e.toJson.write] := by
  obtain ⟨hline, hfeed⟩ := e.line_eq
  obtain ⟨t, ht⟩ := e.exists_write
  rw [ht] at hfeed
  rw [hline, ht, ← List.append_assoc, ← List.append_assoc]
  refine Text.lines_singleton ?_ (by decide)
  rw [List.append_assoc, List.mem_append]
  exact not_or.mpr ⟨hs, hfeed⟩

theorem Entry.not_all_isBlank (e : Entry) (s : List Char) : (s ++ e.toJson.write).all Text.isBlank = false := by
  obtain ⟨t, ht⟩ := e.exists_write
  simp [ht, show Text.isBlank '}' = false from rfl]

/-- Nothing is trimmed from a line that ends with an entry. -/
theorem Entry.trimEnd_append_write (e : Entry) (s : List Char) :
    Text.trimEnd (s ++ e.toJson.write) = s ++ e.toJson.write := by
  obtain ⟨t, ht⟩ := e.exists_write
  rw [ht, ← List.append_assoc]
  exact Text.trimEnd_of_last rfl

/-- An entry is read from its line, even after a gap. -/
theorem Entry.Kept.ofLine {e : Entry} (h : e.Kept) {a : List Char} (ha : Gap a) :
    Entry.ofLine (a ++ e.toJson.write) = .ok e := by
  rw [Entry.ofLine, e.trimEnd_append_write]
  have hread := Json.decodeText_spells (b := []) e.decode_of_holds (Json.spells_write e.toJson) h.readable_toJson
    (by decide) ha Json.gap_nil
  rwa [List.append_nil] at hread

/-! ## Reading line by line -/

theorem readLines_cons {l : List Char} {e : Entry} (hb : l.all Text.isBlank = false) (he : Entry.ofLine l = .ok e)
    (n : Nat) (ls : List (List Char)) : readLines n (l :: ls) = (readLines (n + 1) ls).map fun es => e :: es := by
  rw [readLines, hb, he]
  cases readLines (n + 1) ls <;> rfl

theorem readLines_append (n : Nat) (ks ls : List (List Char)) : readLines n (ks ++ ls) =
    (readLines n ks).bind fun es => (readLines (n + ks.length) ls).map fun fs => es ++ fs := by
  induction ks generalizing n with
  | nil => cases h : readLines n ls <;> simp [readLines, Except.bind, Except.map, h]
  | cons k ks ih =>
    have hn : n + 1 + ks.length = n + (k :: ks).length := by
      simp only [List.length_cons]
      omega
    rw [List.cons_append, readLines, readLines, ih, hn]
    split
    · rfl
    · cases Entry.ofLine k with
      | error e => rfl
      | ok e =>
        cases readLines (n + 1) ks with
        | error b => rfl
        | ok es => cases readLines (n + (k :: ks).length) ls <;> rfl

end History

end Wireframe
