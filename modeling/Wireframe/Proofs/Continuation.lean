import Mathlib.Tactic.SplitIfs
import Wireframe.Proofs.Spelling

/-!
# Documents in texts that go on

A reader that has not met the end of a text reads the same part when more text follows.

* **Scalars** (`Scanner.word_append`, `Scanner.lexeme_append`, `Scanner.passText_append`): a number has to stand before
  something, since its digits could go on; a text that spells characters is passed over too
  (`Scanner.passText_of_text`).
* **Documents** (`Reader.Extends`): by induction on the steps; what is settled does not depend on the end of the text.
* **Records** (`Record.closed_of_decode`): only closed containers are read, so nothing but blanks can be put after the
  text of a record (`decodeText_append_error`).
-/

namespace Wireframe.Json

/-! ## Scalars -/

namespace Scanner

variable {s r w : List Char}

theorem skipBlanks_append {c : Char} (h : skipBlanks s = c :: r) (w : List Char) :
    skipBlanks (s ++ w) = c :: (r ++ w) := by
  have hne : (s.dropWhile fun c => c = ' ' || c = '\n' || c = '\t' || c = '\r').isEmpty = false := by
    rw [← skipBlanks, h]
    rfl
  rw [skipBlanks, List.dropWhile_append, hne, if_neg (by simp), ← skipBlanks, h]
  rfl

theorem word_append {ls : List Char} (h : word ls s = .ok r) (w : List Char) : word ls (s ++ w) = .ok (r ++ w) := by
  induction ls generalizing s with
  | nil =>
    cases h
    rfl
  | cons l ls ih =>
    cases s with
    | nil => cases h
    | cons c s =>
      rw [word] at h
      rw [List.cons_append, word]
      split at h
      · next hc => rw [if_pos hc, ih h]
      · cases h

/-- What is taken up to a character that is there is taken whatever follows. -/
theorem takeWhile_append_of_stop {p : Char → Bool} (h : s.dropWhile p ≠ []) (w : List Char) :
    (s ++ w).takeWhile p = s.takeWhile p ∧ (s ++ w).dropWhile p = s.dropWhile p ++ w := by
  induction s with
  | nil => exact absurd rfl h
  | cons c s ih =>
    by_cases hc : p c = true
    · rw [List.dropWhile_cons_of_pos hc] at h
      obtain ⟨ht, hd⟩ := ih h
      simp [hc, ht, hd]
    · simp [hc]

theorem whole_append {ds : List Char} (h : whole s = .ok (ds, r)) (hr : r ≠ []) (w : List Char) :
    whole (s ++ w) = .ok (ds, r ++ w) := by
  match s with
  | [] => cases h
  | [c] =>
    rw [whole.eq_3] at h
    split_ifs at h
    · cases h
      exact absurd rfl hr
    · cases h
      exact absurd rfl hr
  | c :: d :: s =>
    rw [whole.eq_2] at h
    rw [List.cons_append, List.cons_append, whole.eq_2]
    split_ifs at h ⊢
    · cases h
      rfl
    · cases h
      obtain ⟨ht, hd⟩ := takeWhile_append_of_stop hr w
      rw [← List.cons_append, ht, hd]

theorem fraction_append {f : Option (List Char)} (h : fraction s = .ok (f, r)) (hr : r ≠ []) (w : List Char) :
    fraction (s ++ w) = .ok (f, r ++ w) := by
  cases s with
  | nil =>
    cases h
    exact absurd rfl hr
  | cons c s =>
    by_cases hc : c = '.'
    · subst hc
      cases s with
      | nil => cases h
      | cons d s =>
        simp only [fraction] at h
        split at h
        · next hd =>
          cases h
          obtain ⟨ht, hd'⟩ := takeWhile_append_of_stop hr w
          simp only [List.cons_append] at ht hd' ⊢
          simp only [fraction, if_pos hd, ht, hd']
        · cases h
    · have hnone : ∀ t, fraction (c :: t) = .ok (none, c :: t) := fun t => by
        unfold fraction
        split
        · next heq => exact absurd (List.cons.inj heq).1 hc
        · rfl
      rw [hnone] at h
      cases h
      rw [List.cons_append, hnone]

theorem powerSign_append {d : Char} {n : Bool} {t : List Char} (h : powerSign s = (n, d :: t)) (w : List Char) :
    powerSign (s ++ w) = (n, d :: (t ++ w)) := by
  cases s with
  | nil => cases h
  | cons c s =>
    unfold powerSign at h ⊢
    split at h
    · next heq =>
      cases heq
      cases h
      rfl
    · next heq =>
      cases heq
      cases h
      rfl
    · next hp hm =>
      cases h
      split
      · next heq =>
        cases heq
        exact absurd rfl (hp _)
      · next heq =>
        cases heq
        exact absurd rfl (hm _)
      · rfl

theorem power_append {p : Option (Bool × List Char)} (h : power s = .ok (p, r)) (hr : r ≠ []) (w : List Char) :
    power (s ++ w) = .ok (p, r ++ w) := by
  cases s with
  | nil =>
    cases h
    exact absurd rfl hr
  | cons c s =>
    rw [power.eq_2] at h
    rw [List.cons_append, power.eq_2]
    split at h
    · next hc =>
      rw [if_pos hc]
      cases hs : powerSign s with
      | mk n t =>
        rw [hs] at h
        cases t with
        | nil => cases h
        | cons d t =>
          rw [powerSign_append hs w]
          simp only at h ⊢
          split at h
          · next hd =>
            cases h
            obtain ⟨ht, hd'⟩ := takeWhile_append_of_stop hr w
            simp only [List.cons_append] at ht hd'
            rw [if_pos hd, ht, hd']
          · cases h
    · next hc =>
      cases h
      rw [if_neg hc]
      rfl

theorem lexeme_append {l : Lexeme} (h : lexeme s = .ok (l, r)) (hr : r ≠ []) (w : List Char) :
    lexeme (s ++ w) = .ok (l, r ++ w) := by
  cases s with
  | nil => cases h
  | cons c s =>
    have hsign : sign (c :: s ++ w) = ((sign (c :: s)).1, (sign (c :: s)).2 ++ w) := by
      unfold sign
      split
      · next heq =>
        cases heq
        rfl
      · next hm =>
        split
        · next heq =>
          cases heq
          exact absurd rfl (hm _)
        · rfl
    rw [lexeme] at h
    cases hw : whole (sign (c :: s)).2 with
    | error e => simp [hw] at h
    | ok x =>
      obtain ⟨ds, s₁⟩ := x
      cases hf : fraction s₁ with
      | error e => simp [hw, hf] at h
      | ok y =>
        obtain ⟨f, s₂⟩ := y
        cases hp : power s₂ with
        | error e => simp [hw, hf, hp] at h
        | ok z =>
          obtain ⟨p, s₃⟩ := z
          simp only [hw, hf, hp, Except.ok.injEq, Prod.mk.injEq] at h
          obtain ⟨rfl, rfl⟩ := h
          -- Nothing can be read from an empty rest, so no rest before the last one is empty.
          have h₂ : s₂ ≠ [] := by
            rintro rfl
            cases hp
            exact hr rfl
          have h₁ : s₁ ≠ [] := by
            rintro rfl
            cases hf
            exact h₂ rfl
          rw [lexeme, hsign, whole_append hw h₁ w]
          simp only [fraction_append hf h₂ w, power_append hp hr w]

theorem hexUnit_append {n : Nat} (h : hexUnit s = .ok n) (w : List Char) :
    hexUnit (s ++ w) = .ok n ∧ 4 ≤ s.length := by
  have hshort : ∀ t m, hexUnit.short t ≠ .ok m := fun t m => by
    unfold hexUnit.short
    split <;> simp
  match s with
  | a :: b :: c :: d :: t =>
    refine ⟨?_, by simp⟩
    simp only [List.cons_append, hexUnit] at h ⊢
    split at h
    · exact h
    · exact absurd h (hshort _ _)
  | [] => exact absurd h (hshort _ _)
  | [_] => exact absurd h (hshort _ _)
  | [_, _] => exact absurd h (hshort _ _)
  | [_, _, _] => exact absurd h (hshort _ _)

theorem passEscape_append {n : Nat} (h : passEscape s = .ok n) (w : List Char) :
    passEscape (s ++ w) = .ok n ∧ n ≤ s.length := by
  cases s with
  | nil => cases h
  | cons c s =>
    by_cases hc : c = 'u'
    · subst hc
      simp only [passEscape, List.cons_append] at h ⊢
      cases hu : hexUnit s with
      | error f =>
        rw [hu] at h
        cases h
      | ok m =>
        obtain ⟨hm, hlen⟩ := hexUnit_append hu w
        rw [hu] at h
        cases h
        rw [hm]
        exact ⟨rfl, by simp only [List.length_cons]; omega⟩
    · have hshape : ∀ t, passEscape (c :: t) =
          if (shortEscape? c).isSome then .ok 1 else .error ⟨.invalidEscape, .peek (c :: t)⟩ := fun t => by
        rw [passEscape.eq_3]
        exact hc
      rw [hshape] at h
      rw [List.cons_append, hshape]
      split_ifs at h ⊢
      cases h
      exact ⟨rfl, by simp⟩

theorem passText_append (h : passText s = .ok r) (w : List Char) : passText (s ++ w) = .ok (r ++ w) := by
  induction s using passText.induct with
  | case1 =>
    rw [passText] at h
    cases h
  | case2 s =>
    rw [passText, if_pos rfl] at h
    rw [List.cons_append, passText, if_pos rfl]
    cases h
    rfl
  | case3 s f hf hq =>
    rw [passText, if_neg hq, if_pos rfl, hf] at h
    cases h
  | case4 s n hn hq ih =>
    obtain ⟨hn', hlen⟩ := passEscape_append hn w
    rw [passText, if_neg hq, if_pos rfl, hn] at h
    rw [List.cons_append, passText, if_neg hq, if_pos rfl, hn']
    simp only at h ⊢
    rw [List.drop_append_of_le_length hlen]
    exact ih h
  | case5 c s hq hb hc =>
    rw [passText, if_neg hq, if_neg hb, if_pos hc] at h
    cases h
  | case6 c s hq hb hc ih =>
    rw [passText, if_neg hq, if_neg hb, if_neg hc] at h
    rw [List.cons_append, passText, if_neg hq, if_neg hb, if_neg hc]
    exact ih h

/-- After a backslash, what spells a character is passed over, in two steps if it is a pair of surrogates. -/
theorem passText_escape {d : Char} {n : Nat} (h : escape s = .ok (d, n)) :
    passText ('\\' :: s) = passText (s.drop n) := by
  have hstep : ∀ {t : List Char} {m : Nat}, passEscape t = .ok m → passText ('\\' :: t) = passText (t.drop m) := by
    intro t m ht
    rw [passText, if_neg (by decide), if_pos rfl, ht]
  have hunit : ∀ {t : List Char} {m : Nat}, hexUnit t = .ok m → passEscape ('u' :: t) = .ok 5 := by
    intro t m ht
    simp only [passEscape, ht]
    rfl
  rw [escape.eq_def] at h
  split at h
  · cases h
  · next r =>
    cases hu : hexUnit r with
    | error f =>
      rw [hu] at h
      cases h
    | ok m =>
      rw [hstep (hunit hu)]
      simp only [hu, bind, Except.bind] at h
      split at h
      · cases h
      split at h
      · cases hs : secondSurrogate (r.drop 4) with
        | error f =>
          rw [hs] at h
          cases h
        | ok m₂ =>
          simp only [hs, pure, Except.pure, Except.ok.injEq, Prod.mk.injEq] at h
          obtain ⟨_, rfl⟩ := h
          unfold secondSurrogate at hs
          split at hs
          · next t heq =>
            cases ht : hexUnit t with
            | error f =>
              rw [ht] at hs
              cases hs
            | ok m₃ =>
              have hdrop : ('u' :: r).drop 11 = t.drop 4 := by
                have h := congrArg (List.drop 6) heq
                rw [List.drop_drop] at h
                exact h
              rw [hdrop, List.drop_succ_cons, heq, hstep (hunit ht)]
              rfl
          all_goals cases hs
      · cases h
        rfl
  · next c t hc =>
    split at h
    · next e he =>
      cases h
      have hp : passEscape (c :: t) = .ok 1 := by
        rw [passEscape.eq_3 c t hc, he]
        rfl
      exact hstep hp
    · cases h

/-- A text that spells characters has a shape. -/
theorem passText_of_text {cs : List Char} (h : text s = .ok (cs, r)) : passText s = .ok r := by
  induction s using text.induct generalizing cs with
  | case1 =>
    rw [text] at h
    cases h
  | case2 s =>
    rw [text, if_pos rfl] at h
    cases h
    rw [passText, if_pos rfl]
  | case3 s f hf hq =>
    rw [text, if_neg hq, if_pos rfl, hf] at h
    cases h
  | case4 s d n hn hq ih =>
    rw [text, if_neg hq, if_pos rfl, hn] at h
    rw [passText_escape hn]
    cases ht : text (s.drop n) with
    | error f => simp [ht, Except.map] at h
    | ok x =>
      simp only [ht, Except.map, Except.ok.injEq, Prod.mk.injEq] at h
      obtain ⟨_, rfl⟩ := h
      exact ih ht
  | case5 c s hq hb hc =>
    rw [text, if_neg hq, if_neg hb, if_pos hc] at h
    cases h
  | case6 c s hq hb hc ih =>
    rw [text, if_neg hq, if_neg hb, if_neg hc] at h
    rw [passText, if_neg hq, if_neg hb, if_neg hc]
    cases ht : text s with
    | error f => simp [ht, Except.map] at h
    | ok x =>
      simp only [ht, Except.map, Except.ok.injEq, Prod.mk.injEq] at h
      obtain ⟨_, rfl⟩ := h
      exact ih ht

end Scanner

/-! ## Documents -/

/-- A container that has its closing bracket. -/
def Doc.Closed : Doc → Prop
  | .arr _ _ _ e => ∃ bracket, e = .closed bracket
  | .obj _ _ _ e => ∃ bracket, e = .closed bracket
  | _ => False

namespace Reader

variable {depth fuel n : Nat} {s r w : List Char} {d : Doc} {e : Ending}

/-- Characters of a text are read up to the same quote. -/
theorem textParts_append {v : Except Fault String} (h : textParts s = .ok (v, r)) (w : List Char) :
    ∃ v', textParts (s ++ w) = .ok (v', r ++ w) := by
  have hpass : Scanner.passText s = .ok r := by
    unfold textParts at h
    split at h
    · next ht =>
      cases h
      exact Scanner.passText_of_text ht
    · next hp =>
      cases h
      exact hp
    · cases h
  have hpass' := Scanner.passText_append hpass w
  unfold textParts
  split
  · next cs t _ ht =>
    have := Scanner.passText_of_text ht
    rw [hpass'] at this
    cases this
    exact ⟨_, rfl⟩
  · next hp =>
    rw [hpass'] at hp
    cases hp
    exact ⟨_, rfl⟩
  · next hp =>
    rw [hpass'] at hp
    cases hp

/-- A reader that leaves something of the text, or has read up to a closing bracket, has not met the end of the text. -/
def Settled (d : Doc) (r : List Char) : Prop := r ≠ [] ∨ d.Closed

/-- What is settled at the end of the text is closed. -/
theorem Settled.closed (h : Settled d []) : d.Closed := h.resolve_left fun h => h rfl

theorem wordDoc_append {s' letters after : List Char} {v : Scalar} (h : wordDoc s letters after v = (d, r))
    (hd : Settled d r) (w : List Char) : ∃ d', wordDoc s' letters (after ++ w) v = (d', r ++ w) := by
  unfold wordDoc at h ⊢
  cases hw : Scanner.word letters after with
  | error f =>
    rw [hw] at h
    cases h
    exact nomatch hd.closed
  | ok t =>
    rw [hw] at h
    cases h
    rw [Scanner.word_append hw w]
    exact ⟨_, rfl⟩

theorem numberDoc_append (h : numberDoc s = (d, r)) (hd : Settled d r) (w : List Char) :
    ∃ d', numberDoc (s ++ w) = (d', r ++ w) := by
  unfold numberDoc at h ⊢
  cases hl : Scanner.lexeme s with
  | error f =>
    rw [hl] at h
    cases h
    exact nomatch hd.closed
  | ok x =>
    obtain ⟨l, t⟩ := x
    rw [hl] at h
    cases h
    have hr : r ≠ [] := by simpa [Settled, Doc.Closed] using hd
    rw [Scanner.lexeme_append hl hr w]
    exact ⟨_, rfl⟩

theorem textDoc_append {s' after : List Char} (h : textDoc s after = (d, r)) (hd : Settled d r) (w : List Char) :
    ∃ d', textDoc s' (after ++ w) = (d', r ++ w) := by
  unfold textDoc at h ⊢
  cases ht : textParts after with
  | error f =>
    rw [ht] at h
    cases h
    exact nomatch hd.closed
  | ok x =>
    obtain ⟨v, t⟩ := x
    rw [ht] at h
    cases h
    obtain ⟨v', hv⟩ := textParts_append ht w
    rw [hv]
    exact ⟨_, rfl⟩

/-- Readers of so many steps, once settled, stop at the same place whatever follows, and with more steps as well. -/
structure Extends (fuel : Nat) : Prop where
  part : ∀ {depth : Nat} {s r : List Char} {d : Doc}, Reader.part depth fuel s = (d, r) → Settled d r →
    ∀ {n : Nat}, fuel ≤ n → ∀ w, ∃ d', Reader.part depth n (s ++ w) = (d', r ++ w)
  items : ∀ {depth : Nat} {s r : List Char} {ds : List Doc} {e : Ending}, Reader.items depth fuel s = (ds, e, r) →
    (r ≠ [] ∨ ∃ b, e = .closed b) →
    ∀ {n : Nat}, fuel ≤ n → ∀ w, ∃ ds' e', Reader.items depth n (s ++ w) = (ds', e', r ++ w)
  entries : ∀ {depth : Nat} {s r : List Char} {es : List (Entry Doc)} {e : Ending},
    Reader.entries depth fuel s = (es, e, r) → (r ≠ [] ∨ ∃ b, e = .closed b) →
    ∀ {n : Nat}, fuel ≤ n → ∀ w, ∃ es' e', Reader.entries depth n (s ++ w) = (es', e', r ++ w)

/-- Without steps nothing is settled. -/
theorem extends_zero : Extends 0 where
  part h hd := by
    cases h
    exact nomatch hd.closed
  items h hd := by
    cases h
    exact absurd hd (by simp)
  entries h hd := by
    cases h
    exact absurd hd (by simp)

theorem part_other {c : Char} (hc : c ∉ ['[', '{', '"', 'n', 't', 'f', '-']) (hd : Scanner.isDigit c = false)
    (s : List Char) : part depth (fuel + 1) (c :: s) =
    (.broken (.here (c :: s)) ⟨.expectedValue, .peek (c :: s)⟩ ⟨.expectedValue, .peek (c :: s)⟩, []) := by
  simp only [List.mem_cons, List.not_mem_nil, or_false, not_or] at hc
  rw [part.eq_def]
  simp [hc, hd]

theorem part_obj_other {c : Char} {t : List Char} (hs : Scanner.skipBlanks s = c :: t) (hc : c ≠ '}') (hq : c ≠ '"') :
    part depth (fuel + 1) ('{' :: s) = (.obj (some (.here ('{' :: s))) (tooDeep? depth ('{' :: s)) []
      (.cut ⟨.keyNotString, .peek (c :: t)⟩ ⟨.keyNotString, .peek (c :: t)⟩), []) := by
  rw [part.eq_def]
  simp [hs, hc, hq]

/-- An array is settled when its items are. -/
theorem part_arr_append (hx : Extends fuel) (h : part depth (fuel + 1) ('[' :: s) = (d, r)) (hd : Settled d r)
    (hn : fuel ≤ n) (w : List Char) : ∃ d', part depth (n + 1) ('[' :: (s ++ w)) = (d', r ++ w) := by
  cases hs : Scanner.skipBlanks s with
  | nil =>
    rw [part.eq_def] at h
    simp only [hs] at h
    cases h
    exact nomatch hd.closed
  | cons c t =>
    by_cases hc : c = ']'
    · subst hc
      rw [part_arr_nil _ _ hs] at h
      cases h
      exact ⟨_, part_arr_nil _ _ (Scanner.skipBlanks_append hs w)⟩
    · cases hi : items (depth + 1) fuel (c :: t) with
      | mk ds x =>
        obtain ⟨e, t'⟩ := x
        rw [part_arr_cons _ hs hc hi] at h
        cases h
        obtain ⟨ds', e', hi'⟩ := hx.items hi hd hn w
        exact ⟨_, part_arr_cons _ (Scanner.skipBlanks_append hs w) hc hi'⟩

/-- An object is settled when its members are. -/
theorem part_obj_append (hx : Extends fuel) (h : part depth (fuel + 1) ('{' :: s) = (d, r)) (hd : Settled d r)
    (hn : fuel ≤ n) (w : List Char) : ∃ d', part depth (n + 1) ('{' :: (s ++ w)) = (d', r ++ w) := by
  cases hs : Scanner.skipBlanks s with
  | nil =>
    rw [part.eq_def] at h
    simp only [hs] at h
    cases h
    exact nomatch hd.closed
  | cons c t =>
    by_cases hc : c = '}'
    · subst hc
      rw [part_obj_nil _ _ hs] at h
      cases h
      exact ⟨_, part_obj_nil _ _ (Scanner.skipBlanks_append hs w)⟩
    by_cases hq : c = '"'
    · subst hq
      cases hi : entries (depth + 1) fuel t with
      | mk es x =>
        obtain ⟨e, t'⟩ := x
        rw [part_obj_cons _ hs hi] at h
        cases h
        obtain ⟨es', e', hi'⟩ := hx.entries hi hd hn w
        exact ⟨_, part_obj_cons _ (Scanner.skipBlanks_append hs w) hi'⟩
    · rw [part_obj_other hs hc hq] at h
      cases h
      exact nomatch hd.closed

/-- One more step at the head of a text. -/
theorem part_append (hx : Extends fuel) (h : part depth (fuel + 1) s = (d, r)) (hd : Settled d r) (hn : fuel ≤ n)
    (w : List Char) : ∃ d', part depth (n + 1) (s ++ w) = (d', r ++ w) := by
  cases s with
  | nil =>
    cases h
    exact nomatch hd.closed
  | cons c s =>
    rw [List.cons_append]
    by_cases hnum : c = '-' ∨ Scanner.isDigit c = true
    · rw [part_number hnum] at h ⊢
      exact numberDoc_append h hd w
    by_cases hc : c ∈ ['[', '{', '"', 'n', 't', 'f']
    · simp only [List.mem_cons, List.not_mem_nil, or_false] at hc
      rcases hc with rfl | rfl | rfl | rfl | rfl | rfl
      · exact part_arr_append hx h hd hn w
      · exact part_obj_append hx h hd hn w
      · exact textDoc_append h hd w
      · exact wordDoc_append h hd w
      · exact wordDoc_append h hd w
      · exact wordDoc_append h hd w
    · obtain ⟨hminus, hdigit⟩ := not_or.mp hnum
      rw [part_other (by simpa [hminus] using hc) (by simpa using hdigit)] at h
      cases h
      exact nomatch hd.closed

theorem items_append (hx : Extends fuel) {ds : List Doc} (h : items depth (fuel + 1) s = (ds, e, r))
    (he : r ≠ [] ∨ ∃ b, e = .closed b) (hn : fuel ≤ n) (w : List Char) :
    ∃ ds' e', items depth (n + 1) (s ++ w) = (ds', e', r ++ w) := by
  -- The rest after an item is empty wherever the items end too early.
  have hcut : ∀ {ds' : List Doc} {a b : Fault}, (ds', Ending.cut a b, []) ≠ (ds, e, r) := by
    rintro _ _ _ heq
    cases heq
    simp at he
  cases hp : part depth fuel s with
  | mk d s₁ =>
    cases hs : Scanner.skipBlanks s₁ with
    | nil =>
      simp only [items, hp, hs] at h
      exact absurd h hcut
    | cons c s₂ =>
      have hne : s₁ ≠ [] := by
        rintro rfl
        cases hs
      obtain ⟨d', hp'⟩ := hx.part hp (.inl hne) hn w
      have hs' := Scanner.skipBlanks_append hs w
      by_cases hend : c = ']'
      · subst hend
        rw [items_last hp hs] at h
        cases h
        exact ⟨_, _, items_last hp' hs'⟩
      by_cases hcomma : c = ','
      · subst hcomma
        cases ht : Scanner.skipBlanks s₂ with
        | nil =>
          simp only [items, hp, hs, ht] at h
          exact absurd h hcut
        | cons b s₃ =>
          by_cases hb : b = ']'
          · subst hb
            simp only [items, hp, hs, ht] at h
            exact absurd h hcut
          · cases hi : items depth fuel (b :: s₃) with
            | mk ds₁ x =>
              obtain ⟨e₁, r₁⟩ := x
              rw [items_more hp hs ht hb hi] at h
              cases h
              obtain ⟨ds', e', hi'⟩ := hx.items hi he hn w
              exact ⟨_, _, items_more hp' hs' (Scanner.skipBlanks_append ht w) hb hi'⟩
      · simp only [items.eq_def, hp, hs, List.cons.injEq, hend, hcomma, false_and, imp_self, implies_true] at h
        exact absurd h hcut

theorem part_nil (depth fuel : Nat) : part depth fuel [] = (.absent ⟨.endInValue, .peek []⟩, []) := by
  cases fuel <;> rfl

/-- Members are settled when each of them is. -/
theorem entries_append (hx : Extends fuel) {es : List (Entry Doc)} (h : entries depth (fuel + 1) s = (es, e, r))
    (he : r ≠ [] ∨ ∃ b, e = .closed b) (hn : fuel ≤ n) (w : List Char) :
    ∃ es' e', entries depth (n + 1) (s ++ w) = (es', e', r ++ w) := by
  -- The rest after a member is empty wherever the members end too early.
  have hcut : ∀ {es' : List (Entry Doc)} {a b : Fault}, (es', Ending.cut a b, []) ≠ (es, e, r) := by
    rintro _ _ _ heq
    cases heq
    simp at he
  have hnil : Scanner.skipBlanks [] = [] := rfl
  cases hk : textParts s with
  | error f =>
    simp only [entries, hk] at h
    exact absurd h hcut
  | ok x =>
    obtain ⟨key, s₁⟩ := x
    obtain ⟨key', hk'⟩ := textParts_append hk w
    cases hs : Scanner.skipBlanks s₁ with
    | nil =>
      simp only [entries, hk, hs, hnil] at h
      exact absurd h hcut
    | cons c s₂ =>
      have hs' := Scanner.skipBlanks_append hs w
      by_cases hc : c = ':'
      · subst hc
        cases hp : part depth fuel (Scanner.skipBlanks s₂) with
        | mk d s₃ =>
          cases ht : Scanner.skipBlanks s₃ with
          | nil =>
            simp only [entries, hk, hs, hp, ht] at h
            exact absurd h hcut
          | cons b s₄ =>
            have hne : s₃ ≠ [] := by
              rintro rfl
              cases ht
            -- blanks at the end of the text could go on, but then there would be no value before them
            have hvalue : Scanner.skipBlanks (s₂ ++ w) = Scanner.skipBlanks s₂ ++ w := by
              cases hv : Scanner.skipBlanks s₂ with
              | nil =>
                rw [hv, part_nil] at hp
                cases hp
                exact absurd rfl hne
              | cons a t => exact Scanner.skipBlanks_append hv w
            obtain ⟨d', hp'⟩ := hx.part hp (.inl hne) hn w
            rw [← hvalue] at hp'
            have ht' := Scanner.skipBlanks_append ht w
            by_cases hend : b = '}'
            · subst hend
              rw [entries_last hk hs hp ht] at h
              cases h
              exact ⟨_, _, entries_last hk' hs' hp' ht'⟩
            by_cases hcomma : b = ','
            · subst hcomma
              cases hu : Scanner.skipBlanks s₄ with
              | nil =>
                simp only [entries, hk, hs, hp, ht, hu] at h
                exact absurd h hcut
              | cons a s₅ =>
                by_cases ha : a = '"'
                · subst ha
                  cases hi : entries depth fuel s₅ with
                  | mk es₁ x =>
                    obtain ⟨e₁, r₁⟩ := x
                    rw [entries_more hk hs hp ht hu hi] at h
                    cases h
                    obtain ⟨es', e', hi'⟩ := hx.entries hi he hn w
                    exact ⟨_, _, entries_more hk' hs' hp' ht' (Scanner.skipBlanks_append hu w) hi'⟩
                by_cases hb : a = '}'
                · subst hb
                  simp only [entries, hk, hs, hp, ht, hu] at h
                  exact absurd h hcut
                · simp only [entries.eq_def, hk, hs, hp, ht, hu, List.cons.injEq, ha, hb, false_and, imp_self,
                    implies_true] at h
                  exact absurd h hcut
            · simp only [entries.eq_def, hk, hs, hp, ht, List.cons.injEq, hend, hcomma, false_and, imp_self,
                implies_true] at h
              exact absurd h hcut
      · simp only [entries.eq_def, hk, hs, hnil, List.cons.injEq, hc, false_and, imp_self, implies_true] at h
        exact absurd h hcut

/-- What is settled after any number of steps is settled whatever follows. -/
theorem extends_all (fuel : Nat) : Extends fuel := by
  induction fuel with
  | zero => exact extends_zero
  | succ fuel ih =>
    refine ⟨fun h hd n hn w => ?_, fun h he n hn w => ?_, fun h he n hn w => ?_⟩
    -- no fewer steps than these are at least one step
    all_goals obtain ⟨m, rfl⟩ : ∃ m, n = m + 1 := ⟨n - 1, by omega⟩
    · exact part_append ih h hd (by omega) w
    · exact items_append ih h he (by omega) w
    · exact entries_append ih h he (by omega) w

end Reader

/-- After a closed container a text may go on in any way. -/
theorem Doc.ofText_append {s r : List Char} {d : Doc} (h : Doc.ofText s = (d, r)) (hd : d.Closed) (w : List Char) :
    ∃ d', Doc.ofText (s ++ w) = (d', r ++ w) := by
  cases hs : Scanner.skipBlanks s with
  | nil =>
    rw [Doc.ofText, hs, Reader.part_nil] at h
    cases h
    exact hd.elim
  | cons c t =>
    rw [Doc.ofText, hs] at h
    rw [Doc.ofText, Scanner.skipBlanks_append hs w, ← List.cons_append]
    exact (Reader.extends_all _).part h (.inr hd) (by simp only [List.length_append]; omega) w

/-! ## Records -/

theorem otherType_ne_ok {α : Type} (expected : String) (d : Doc) (a : α) : otherType expected d ≠ .ok a := by
  unfold otherType
  split <;> simp

namespace Record

variable {σ π α : Type}

/-- The items of an array are only read to the end if the array has its bracket. -/
theorem closed_of_readItems (r : Record σ π α) (doc : σ → Doc) {e : Ending} {total i : Nat} {last : Option Mark}
    {p q : π} {fs : List (Field σ π)} {ss : List σ} (h : r.readItems doc e total i last p fs ss = .ok q) :
    ∃ bracket, e = .closed bracket := by
  have hsurplus : ∀ m n, ∃ f, surplus m n = .error f := fun m n => by
    unfold surplus
    split
    · exact ⟨_, rfl⟩
    · split
      · split <;> exact ⟨_, rfl⟩
      · exact ⟨_, rfl⟩
  cases e with
  | closed b => exact ⟨b, rfl⟩
  | cut f g =>
    induction fs generalizing i last p ss with
    | nil =>
      cases ss with
      | nil =>
        cases last with
        | none => cases h
        | some m =>
          obtain ⟨x, hx⟩ := hsurplus (some m) total
          simp only [readItems, hx] at h
          split at h <;> cases h
      | cons s ss =>
        obtain ⟨x, hx⟩ := hsurplus last total
        simp only [readItems, hx] at h
        cases h
    | cons f fs ih =>
      cases ss with
      | nil => cases h
      | cons s ss =>
        rw [readItems] at h
        cases hp : placed (((doc s).stop?).map leaveList) (f.read p s) with
        | error x =>
          rw [hp] at h
          cases h
        | ok p' =>
          rw [hp] at h
          exact ih h

/-- A record is only read from a container that has its bracket. -/
theorem closed_of_decode {r : Record Doc π α} {d : Doc} {a : α} (h : r.decode d = .ok a) : d.Closed := by
  cases d with
  | scalar start stop v => exact absurd h (otherType_ne_ok r.name (.scalar start stop v) a)
  | broken start f g => exact absurd h (otherType_ne_ok r.name (.broken start f g) a)
  | absent f => exact absurd h (otherType_ne_ok r.name (.absent f) a)
  | arr start deep ds e =>
    rw [decode, ofItems] at h
    cases hd : orFault (enter deep) with
    | error x =>
      rw [hd] at h
      cases h
    | ok u =>
      cases hq : r.readItems id e ds.length 0 none r.empty r.fields ds with
      | error x =>
        rw [hd, hq] at h
        cases h
      | ok q => exact closed_of_readItems r id hq
  | obj start deep es e =>
    cases e with
    | closed b => exact ⟨b, rfl⟩
    | cut f g =>
      rw [decode, ofEntries] at h
      cases hd : orFault (enter deep) with
      | error x =>
        rw [hd] at h
        cases h
      | ok u =>
        cases hq : r.readEntries id r.empty es with
        | error x =>
          rw [hd, hq] at h
          cases h
        | ok q =>
          rw [hd, hq] at h
          cases h

end Record

/-- After the text of a record there can be blanks only. -/
theorem decodeText_append_error {π α : Type} {r : Record Doc π α} {s w : List Char} {a : α}
    (h : decodeText r.decode (String.ofList s) = .ok a) (hw : ¬Gap w) :
    ∃ e, decodeText r.decode (String.ofList (s ++ w)) = .error e := by
  rw [decodeText, String.toList_ofList] at h
  cases hs : Doc.ofText s with
  | mk d rest =>
    cases hd : r.decode d with
    | error x => simp [hs, hd, bind, Except.bind] at h
    | ok b =>
      have hrest : Gap rest := by
        cases hrest : Scanner.skipBlanks rest with
        | nil => exact hrest
        | cons c t => simp [hs, hd, checkEnd, hrest, orFault, bind, Except.bind] at h
      obtain ⟨d', hs'⟩ := Doc.ofText_append hs (Record.closed_of_decode hd) w
      obtain ⟨c, t, hskip⟩ : ∃ c t, Scanner.skipBlanks (rest ++ w) = c :: t := by
        rw [Scanner.skipBlanks_gap hrest]
        exact List.exists_cons_of_ne_nil hw
      rw [decodeText, String.toList_ofList, hs']
      cases hd' : r.decode d' with
      | error x => exact ⟨_, by simp only [hd', bind, Except.bind]; rfl⟩
      | ok b' => exact ⟨_, by simp only [hd', checkEnd, hskip, orFault, bind, Except.bind]; rfl⟩

end Wireframe.Json
