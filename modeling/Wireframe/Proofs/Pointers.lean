import Wireframe.Path
import Wireframe.Proofs.Lines
import Wireframe.Proofs.Replacing
import Wireframe.Proofs.Scalars

/-!
# Places that were written as pointers

A place is reported by the path of its pointer. What comes back of a step depends on the step alone.

* **Numbers** (`Text.natural64?_toDigits`, `Text.isSome_natural64?_iff`): the digits of a number are read as the number,
  if it fits into 64 bits, and this is how all texts look that are read as numbers.
* **Tokens** (`Path.splitOn_toPointer`): no token has a slash, so a pointer is cut into the tokens of its steps.
* **Escapes** (`Path.escape_eq_replace`, `Path.unescape_eq_replace`, `Path.unescape_escape`): both are written one after
  the other, and undone one after the other.
* **Reported places** (`Path.segments_ofPointer_toPointer`, `Path.reported_append`): step by step, so the report of a
  place that goes on goes on from the report of the place.
* **Places that come back** (`Path.read_back_exactly`): those whose keys have characters and are not read as numbers.
-/

namespace Wireframe

/-! ## Numbers -/

namespace Text

theorem isDigit_of_mem_toDigits {n : Nat} {c : Char} (h : c ∈ Nat.toDigits 10 n) : isDigit c = true :=
  Json.Scanner.isDigit_of_mem_toDigits h

theorem ofDigits_toDigits (n : Nat) : ofDigits (Nat.toDigits 10 n) = n := by
  have hfold : ofDigits (Nat.toDigits 10 n) = Nat.ofDigitChars 10 (Nat.toDigits 10 n) 0 := by
    rw [ofDigits, Nat.ofDigitChars]
    congr 1
    funext m c
    rw [Nat.mul_comm]
    rfl
  rw [hfold, Nat.ofDigitChars_ten_toDigits]

/-- **A number is read from its digits**, if it fits into 64 bits. -/
theorem natural64?_toDigits (n : Nat) :
    natural64? (Nat.toDigits 10 n) = if n < Nat.pow 2 64 then some n else none := by
  have hdigits : natural64? (Nat.toDigits 10 n) = digits64? (Nat.toDigits 10 n) := by
    rw [natural64?]
    intro ds h
    have hplus : isDigit '+' = true := isDigit_of_mem_toDigits (h ▸ List.mem_cons_self)
    exact absurd hplus (by decide)
  have hne : (Nat.toDigits 10 n).isEmpty = false := List.isEmpty_eq_false_iff.mpr Nat.toDigits_ne_nil
  have hall : (Nat.toDigits 10 n).all isDigit = true := List.all_eq_true.mpr fun c => isDigit_of_mem_toDigits
  rw [hdigits, digits64?, ofDigits_toDigits]
  simp only [hne, hall, true_and]

def Digits64 (ds : List Char) : Prop := ds ≠ [] ∧ (∀ c ∈ ds, isDigit c = true) ∧ ofDigits ds < Nat.pow 2 64

/-- A text that spells a number below `2 ^ 64`, with or without a plus sign. -/
def Spells64 (s : List Char) : Prop := ∃ ds, (s = ds ∨ s = '+' :: ds) ∧ Digits64 ds

theorem isSome_digits64?_iff (ds : List Char) : (digits64? ds).isSome = true ↔ Digits64 ds := by
  rw [digits64?, Option.isSome_ite, Digits64, List.isEmpty_eq_false_iff, List.all_eq_true]

/-- **The texts that are read as numbers** are those that spell one. -/
theorem isSome_natural64?_iff (s : List Char) : (natural64? s).isSome = true ↔ Spells64 s := by
  rw [natural64?.eq_def]
  split
  · next ds =>
    rw [isSome_digits64?_iff]
    refine ⟨fun h => ⟨ds, .inr rfl, h⟩, ?_⟩
    rintro ⟨es, rfl | h, hes⟩
    · exact absurd (hes.2.1 '+' List.mem_cons_self) (by decide)
    · exact (List.cons.inj h).2 ▸ hes
  · next hsign =>
    rw [isSome_digits64?_iff]
    refine ⟨fun h => ⟨s, .inl rfl, h⟩, ?_⟩
    rintro ⟨ds, rfl | h, hds⟩
    · exact hds
    · exact absurd h (hsign ds)

instance : DecidablePred Spells64 := fun s => decidable_of_iff _ (isSome_natural64?_iff s)

end Text

namespace Path

/-! ## Tokens -/

theorem slash_not_mem_escape (key : List Char) : '/' ∉ escape key := by
  intro h
  obtain ⟨c, _, hc⟩ := List.mem_flatMap.mp h
  split at hc
  · simp at hc
  · split at hc
    · simp at hc
    · next hne => exact hne (List.mem_singleton.mp hc).symm

theorem slash_not_mem_toToken (s : Segment) : '/' ∉ toToken s := by
  cases s with
  | key k => exact slash_not_mem_escape k.toList
  | index i => exact fun h => absurd (Text.isDigit_of_mem_toDigits h) (by decide)

/-- **A pointer is cut into the tokens of its steps**, after nothing in front of the first slash. -/
theorem splitOn_toPointer (place : List Segment) :
    Text.splitOn '/' (toPointer place).toList = [] :: place.map toToken := by
  -- by induction on the steps, whatever token stands in front of them
  have hsteps (t : List Char) (ht : '/' ∉ t) :
      Text.splitOn '/' (t ++ place.flatMap fun s => '/' :: toToken s) = t :: place.map toToken := by
    induction place generalizing t with
    | nil => rw [List.flatMap_nil, List.append_nil, Text.splitOn_of_not_mem ht, List.map_nil]
    | cons s place ih =>
      rw [List.flatMap_cons, List.cons_append, Text.splitOn_append_cons, Text.splitOn_of_not_mem ht,
        ih _ (slash_not_mem_toToken s), List.map_cons, List.singleton_append]
  rw [toPointer, String.toList_ofList]
  exact hsteps [] List.not_mem_nil

/-! ## Escapes -/

/-- The tildes of a key are escaped first, and then its slashes. -/
theorem escape_eq_replace (key : List Char) :
    escape key = Text.replace ['/'] ['~', '1'] (Text.replace ['~'] ['~', '0'] key) := by
  rw [Text.replace_singleton, Text.replace_singleton, List.flatMap_assoc, escape]
  refine congrArg (key.flatMap ·) (funext fun c => ?_)
  by_cases htilde : c = '~'
  · subst htilde
    rfl
  · rw [if_neg htilde, if_neg htilde, List.flatMap_singleton]

theorem escape_cons (c : Char) (key : List Char) : escape (c :: key) = escape [c] ++ escape key := by
  rw [escape, List.flatMap_cons, escape, List.flatMap_singleton, escape]

theorem unescape_cons {c : Char} {s : List Char} (hslash : ∀ t, c = '~' → s ≠ '1' :: t)
    (htilde : ∀ t, c = '~' → s ≠ '0' :: t) : unescape (c :: s) = c :: unescape s := by
  rw [unescape]
  · exact hslash
  · exact htilde

/-- A slash that is put in place of an escape does not complete another one. -/
theorem replace_slash_ne {s : List Char} (h : ∀ t, s ≠ '0' :: t) (t : List Char) :
    Text.replace ['~', '1'] ['/'] s ≠ '0' :: t := by
  cases s with
  | nil =>
    rw [Text.replace_nil]
    exact List.cons_ne_nil _ _ ∘ Eq.symm
  | cons c s =>
    rw [Text.replace]
    split
    · exact fun he => absurd (List.cons.inj he).1 (by decide)
    · exact fun he => h s (by rw [(List.cons.inj he).1])

/-- **The escapes of slashes are undone first**, and then those of tildes. -/
theorem unescape_eq_replace (s : List Char) :
    unescape s = Text.replace ['~', '0'] ['~'] (Text.replace ['~', '1'] ['/'] s) := by
  induction s using unescape.induct with
  | case1 s ih =>
    have hword : Text.replace ['~', '1'] ['/'] ('~' :: '1' :: s) = '/' :: Text.replace ['~', '1'] ['/'] s :=
      Text.replace_append ['/'] (by decide) s
    rw [unescape, hword, Text.replace_cons _ (by simp), ih]
  | case2 s ih =>
    have hkept : Text.replace ['~', '1'] ['/'] ('~' :: '0' :: s) = '~' :: '0' :: Text.replace ['~', '1'] ['/'] s := by
      rw [Text.replace_cons _ (by simp), Text.replace_cons _ (by simp)]
    have hword (t : List Char) : Text.replace ['~', '0'] ['~'] ('~' :: '0' :: t) =
        '~' :: Text.replace ['~', '0'] ['~'] t := Text.replace_append ['~'] (by decide) t
    rw [unescape, hkept, hword, ih]
  | case3 c s hslash htilde ih =>
    have hfirst : ¬['~', '1'] <+: c :: s := by
      rintro ⟨t, ht⟩
      obtain ⟨rfl, rfl⟩ := List.cons.inj ht
      exact hslash t rfl rfl
    have hsecond : ¬['~', '0'] <+: c :: Text.replace ['~', '1'] ['/'] s := by
      rintro ⟨t, ht⟩
      obtain ⟨hc, hs⟩ := List.cons.inj ht
      exact replace_slash_ne (fun u => htilde u hc.symm) t hs.symm
    rw [unescape_cons hslash htilde, Text.replace_cons _ hfirst, Text.replace_cons _ hsecond, ih]
  | case4 => rw [Text.replace_nil, Text.replace_nil, unescape]

theorem unescape_escape_append (c : Char) (s : List Char) : unescape (escape [c] ++ s) = c :: unescape s := by
  rw [escape, List.flatMap_singleton]
  split
  · next h => rw [h]; rfl
  · next htilde =>
    split
    · next h => rw [h]; rfl
    · exact unescape_cons (fun _ h => absurd h htilde) (fun _ h => absurd h htilde)

/-- **Escaping is undone.** -/
theorem unescape_escape (key : List Char) : unescape (escape key) = key := by
  induction key with
  | nil => rfl
  | cons c key ih => rw [escape_cons, unescape_escape_append, ih]

theorem escape_eq_nil_iff {key : List Char} : escape key = [] ↔ key = [] := by
  refine ⟨fun h => ?_, fun h => by rw [h]; rfl⟩
  rw [← unescape_escape key, h]
  rfl

/-! ## Reported places -/

/-- A place as it comes back from its pointer: each step as its token is read; a step without a token is passed over. -/
def reported (place : List Segment) : List Segment :=
  ((place.map toToken).filter fun t => !t.isEmpty).map ofToken

theorem segments_ofPointer_toPointer (place : List Segment) :
    (ofPointer (toPointer place)).segments = reported place := by
  rw [ofPointer, splitOn_toPointer, List.filter_cons_of_neg (by simp), reported]

theorem reported_append (place more : List Segment) : reported (place ++ more) = reported place ++ reported more := by
  rw [reported, List.map_append, List.filter_append, List.map_append, reported, reported]

theorem unescape_of_not_mem {s : List Char} (h : '~' ∉ s) : unescape s = s := by
  induction s with
  | nil => rfl
  | cons c s ih =>
    obtain ⟨hc, hs⟩ := not_or.mp (mt List.mem_cons.mpr h)
    rw [unescape_cons (fun _ hp _ => hc hp.symm) (fun _ hp _ => hc hp.symm), ih hs]

/-- A position is reported as one if it fits into 64 bits, and else as the key that its digits are. -/
theorem reported_index (i : Nat) : reported [.index i] =
    [if i < Nat.pow 2 64 then .index i else .key (String.ofList (Nat.toDigits 10 i))] := by
  have htilde : '~' ∉ Nat.toDigits 10 i := fun h => absurd (Text.isDigit_of_mem_toDigits h) (by decide)
  have hne : (Nat.toDigits 10 i).isEmpty = false := List.isEmpty_eq_false_iff.mpr Nat.toDigits_ne_nil
  have htoken : ofToken (Nat.toDigits 10 i) =
      if i < Nat.pow 2 64 then .index i else .key (String.ofList (Nat.toDigits 10 i)) := by
    rw [ofToken, unescape_of_not_mem htilde, Text.natural64?_toDigits]
    by_cases hi : i < Nat.pow 2 64
    · rw [if_pos hi, if_pos hi]
    · rw [if_neg hi, if_neg hi]
  simp [reported, toToken, hne, htoken]

/-- A key is reported as the position that its characters are read as, or else as itself, if it has any. -/
theorem reported_key (k : String) :
    reported [.key k] = if k = "" then [] else [(Text.natural64? k.toList).elim (.key k) .index] := by
  by_cases hk : k = ""
  · rw [if_pos hk, hk]
    rfl
  · have htoken : escape k.toList ≠ [] := fun h => hk (String.toList_eq_nil_iff.mp (escape_eq_nil_iff.mp h))
    rw [if_neg hk, reported, List.map_singleton, toToken, List.filter_cons_of_pos (by simpa using htoken),
      List.filter_nil, List.map_singleton, ofToken, unescape_escape, String.ofList_toList]
    cases Text.natural64? k.toList <;> rfl

/-- A key comes back as it is when it has characters and spells no number. -/
theorem reported_key_eq_iff (k : String) :
    reported [.key k] = [.key k] ↔ k ≠ "" ∧ ¬Text.Spells64 k.toList := by
  rw [reported_key, ← Text.isSome_natural64?_iff]
  by_cases hk : k = ""
  · simp [hk]
  · rw [if_neg hk]
    cases Text.natural64? k.toList <;> simp [hk]

theorem length_reported_le (place : List Segment) : (reported place).length ≤ place.length := by
  rw [reported, List.length_map]
  exact Nat.le_trans (List.length_filter_le _ _) (Nat.le_of_eq (List.length_map toToken))

/-- A place comes back when each of its steps does. -/
theorem reported_eq_self_iff (place : List Segment) : reported place = place ↔ ∀ s ∈ place, reported [s] = [s] := by
  induction place with
  | nil => simp [reported]
  | cons s place ih =>
    have hsplit : reported (s :: place) = reported [s] ++ reported place := reported_append [s] place
    rw [List.forall_mem_cons, ← ih, hsplit]
    refine ⟨fun h => ?_, fun h => by rw [h.1, h.2, List.singleton_append]⟩
    -- a step that is passed over is not made up for by the others
    have hlength := congrArg List.length h
    have hstep := length_reported_le [s]
    have hrest := length_reported_le place
    simp only [List.length_append, List.length_cons, List.length_nil] at hlength hstep
    have hone : (reported [s]).length = [s].length := by
      simp only [List.length_singleton]
      omega
    exact List.append_inj h hone

/-- A place comes back from its pointer, if its positions fit into 64 bits, when every key has characters and none
spells a number below `2 ^ 64`. -/
theorem segments_eq_self_iff {place : List Segment} (h : ∀ i, Segment.index i ∈ place → i < Nat.pow 2 64) :
    (ofPointer (toPointer place)).segments = place ↔
      ∀ k, Segment.key k ∈ place → k ≠ "" ∧ ¬Text.Spells64 k.toList := by
  have hindex : ∀ i, Segment.index i ∈ place → reported [.index i] = [.index i] := fun i hi => by
    rw [reported_index, if_pos (h i hi)]
  rw [segments_ofPointer_toPointer, reported_eq_self_iff]
  refine ⟨fun hall k hk => (reported_key_eq_iff k).mp (hall _ hk), fun hkeys s hs => ?_⟩
  cases s with
  | key k => exact (reported_key_eq_iff k).mpr (hkeys k hs)
  | index i => exact hindex i hs

/-- **Pointers are read back exactly where they can be.** In keys the tildes are escaped first and then the slashes, and
the escapes are undone the other way round. A place comes back, if its positions fit into 64 bits, exactly when every
key has characters and none spells a number below `2 ^ 64`. -/
theorem read_back_exactly {place : List Segment} (h : ∀ i, Segment.index i ∈ place → i < Nat.pow 2 64) :
    (∀ key, escape key = Text.replace ['/'] ['~', '1'] (Text.replace ['~'] ['~', '0'] key)) ∧
    (∀ token, unescape token = Text.replace ['~', '0'] ['~'] (Text.replace ['~', '1'] ['/'] token)) ∧
    ((ofPointer (toPointer place)).segments = place ↔
      ∀ k, Segment.key k ∈ place → k ≠ "" ∧ ¬Text.Spells64 k.toList) :=
  ⟨escape_eq_replace, unescape_eq_replace, segments_eq_self_iff h⟩

def edges : List Segment :=
  [.key "~1", .key "~01/", .index 18446744073709551615, .key "18446744073709551616", .key "-0", .key "+"]

/-- These keys come back, with the position. A key with a plus sign and leading zeros does not. -/
theorem read_back_exactly_edges :
    (∀ i, Segment.index i ∈ edges → i < Nat.pow 2 64) ∧ (ofPointer (toPointer edges)).segments = edges ∧
      (ofPointer (toPointer [.key "+007"])).segments ≠ [.key "+007"] := by
  have hfits : ∀ i, Segment.index i ∈ edges → i < Nat.pow 2 64 := by simp [edges]
  refine ⟨hfits, (read_back_exactly hfits).2.2.mpr ?_, fun h => ?_⟩
  · simp only [edges, List.mem_cons, Segment.key.injEq, reduceCtorEq, false_or, or_false, List.not_mem_nil]
    rintro k (rfl | rfl | rfl | rfl | rfl) <;> decide
  · exact ((read_back_exactly (by simp)).2.2.mp h "+007" List.mem_cons_self).2 (by decide)

end Path

end Wireframe
