import Mathlib.Tactic.SplitIfs
import Wireframe.Command.Run
import Wireframe.Proofs.Lines

/-!
# Steps in a directory

* **Appending** (`Directory.append_eq_ok_iff`, `Directory.read_append`, `Directory.read_append_missing`): which paths
  can be written to does not depend on what files hold, and a file that was appended to holds its old text first.
* **Performing** (`Directory.perform`): the result of a step in a directory and the directory after it, by the parts of
  the step.
* **Plan files** (`Directory.planValue`, `Directory.perform_loadValue`): the value in a file, or why there is none.
* **Steps on a history** (`Directory.perform_loadHistory`, `Directory.perform_appendHistory`).
-/

namespace Wireframe.Directory

variable {d d₁ : Directory} {path text : String}

/-! ## Files -/

/-- What is put under a name is found there, and all other files stay. -/
theorem lookup_putFile (n k : String) (c : Content) (fs : List (String × Content)) :
    (putFile n c fs).lookup k = if k = n then some c else fs.lookup k := by
  induction fs with
  | nil => exact Members.lookup_cons_ite k n c []
  | cons f fs ih =>
    obtain ⟨m, e⟩ := f
    rw [putFile]
    split
    · next h =>
      obtain rfl : m = n := h
      rw [Members.lookup_cons_ite, Members.lookup_cons_ite]
      split <;> rfl
    · next h =>
      rw [Members.lookup_cons_ite, Members.lookup_cons_ite, ih]
      by_cases hk : k = m
      · rw [if_pos hk, if_pos hk, if_neg (fun hn => h (hk.symm.trans hn))]
      · rw [if_neg hk, if_neg hk]

/-- A name that can be that of a file: it has no slash, and is none of those that lead elsewhere. -/
def PlainName (name : String) : Prop :=
  '\x00' ∉ name.toList ∧ '/' ∉ name.toList ∧ name ≠ "" ∧ name ≠ "." ∧ name ≠ ".." ∧ name.utf8ByteSize ≤ maxName

instance : DecidablePred PlainName := fun name => inferInstanceAs (Decidable ('\x00' ∉ name.toList ∧
  '/' ∉ name.toList ∧ name ≠ "" ∧ name ≠ "." ∧ name ≠ ".." ∧ name.utf8ByteSize ≤ maxName))

theorem target_of_plain (d : Directory) {name : String} (h : PlainName name) : d.target name = .ok (.name name) := by
  obtain ⟨hnull, hslash, hempty, hdot, hdots, hsize⟩ := h
  have hcontains : name.contains '\x00' = false := by simpa using hnull
  have hparts : parts name = [name] := by
    simp [parts, Text.splitOn_of_not_mem hslash, hempty]
  have hhead : name.toList.head? ≠ some '/' := fun h => hslash (List.mem_of_head? h)
  have hpath : ¬ maxPath < name.utf8ByteSize := by
    simp only [maxName] at hsize
    simp only [maxPath]
    omega
  rw [target, if_neg (by simpa using hcontains), if_neg (by simpa using hempty), if_neg hpath, if_neg hhead, hparts]
  simp [follow, hdot, hdots, Nat.not_lt.mpr hsize]

/-- One more part of a path leads to the same place in all directories. -/
theorem follow_of_ok {t u : Target} {part : String} (h : d.follow t part = .ok u) (e : Directory) :
    e.follow t part = .ok u := by
  cases t with
  | inside => exact h
  | above => exact h
  | name n => cases h

/-- A path leads to the same place in all directories. -/
theorem target_of_ok {t : Target} (h : d.target path = .ok t) (e : Directory) : e.target path = .ok t := by
  have hparts : ∀ (ps : List String) (u : Target), ps.foldlM d.follow u = .ok t → ps.foldlM e.follow u = .ok t := by
    intro ps
    induction ps with
    | nil => exact fun _ h => h
    | cons p ps ih =>
      intro u h
      rw [List.foldlM_cons] at h ⊢
      cases hu : d.follow u p with
      | error x =>
        rw [hu] at h
        cases h
      | ok v =>
        rw [hu] at h
        rw [follow_of_ok hu e]
        exact ih v h
  unfold target at h ⊢
  split_ifs at h ⊢
  · exact hparts _ _ h
  · exact hparts _ _ h

/-- A text is appended exactly where a path leads to a name and ends with no slash. -/
theorem append_eq_ok_iff : d.append path text = .ok d₁ ↔
    ∃ n, d.target path = .ok (.name n) ∧ endsWithSlash path = false ∧
      d₁ = { d with files := putFile n (appendContent (d.files.lookup n) text) d.files } := by
  unfold append
  cases ht : d.target path with
  | error e => simp [bind, Except.bind]
  | ok t =>
    cases t with
    | inside => simp [bind, Except.bind]
    | above => simp [bind, Except.bind]
    | name n => cases endsWithSlash path <;> simp [bind, Except.bind, eq_comm (a := d₁)]

theorem read_of_target {n : String} (ht : d.target path = .ok (.name n)) (hs : endsWithSlash path = false) :
    d.read path = match d.files.lookup n with
      | none => .error .notFound
      | some (.text s) => .ok s
      | some (.bytes _) => .error .notText := by
  rw [read, ht]
  simp only [bind, Except.bind, hs]
  cases d.files.lookup n with
  | none => rfl
  | some c => cases c <;> rfl

theorem read_append {s : String} (h : d.append path text = .ok d₁) (hs : d.read path = .ok s) :
    d₁.read path = .ok (s ++ text) := by
  obtain ⟨n, ht, hslash, rfl⟩ := append_eq_ok_iff.mp h
  rw [read_of_target ht hslash] at hs
  rw [read_of_target (target_of_ok ht _) hslash, lookup_putFile, if_pos rfl]
  split at hs
  · cases hs
  · next heq =>
    cases hs
    rw [heq]
    rfl
  · cases hs

theorem read_append_missing (h : d.append path text = .ok d₁) (hs : d.read path = .error .notFound) :
    d₁.read path = .ok text := by
  obtain ⟨n, ht, hslash, rfl⟩ := append_eq_ok_iff.mp h
  rw [read_of_target ht hslash] at hs
  rw [read_of_target (target_of_ok ht _) hslash, lookup_putFile, if_pos rfl]
  split at hs
  · next heq =>
    rw [heq]
    rfl
  · cases hs
  · cases hs

/-- Every text can be written at the end of a file, or into a new one. -/
def Accepts (d : Directory) (path : String) : Prop := ∀ text, ∃ d₁, d.append path text = .ok d₁

theorem accepts_of_target {n : String} (ht : d.target path = .ok (.name n)) (hs : endsWithSlash path = false) :
    d.Accepts path := fun _ => ⟨_, append_eq_ok_iff.mpr ⟨n, ht, hs, rfl⟩⟩

/-- Whether a file can be written to does not depend on what it holds. -/
theorem accepts_of_append (h : d.append path text = .ok d₁) (e : Directory) : e.Accepts path := by
  obtain ⟨n, ht, hslash, _⟩ := append_eq_ok_iff.mp h
  exact accepts_of_target (target_of_ok ht e) hslash

/-! ## Steps -/

/-- The result of a step in a directory, and the directory after it. -/
def perform {α : Type} (d : Directory) (s : Step (StateM Directory) α) : Except CommandError α × Directory := s.run d

variable {α β : Type}

@[simp] theorem perform_pure (d : Directory) (a : α) : d.perform (pure a) = (.ok a, d) := rfl

/-- A step goes on in the directory that the step before left, unless that failed. -/
theorem perform_bind (d : Directory) (s : Step (StateM Directory) α) (f : α → Step (StateM Directory) β) :
    d.perform (s >>= f) = match d.perform s with
      | (.ok a, d₁) => d₁.perform (f a)
      | (.error e, d₁) => (.error e, d₁) := by
  rw [perform, ExceptT.run_bind]
  simp only [bind, StateT.bind]
  cases h : s.run d with
  | mk r d₁ =>
    rw [perform, h]
    cases r <;> rfl

/-- A step that succeeds does so part after part. -/
theorem of_perform_bind_ok {s : Step (StateM Directory) α} {f : α → Step (StateM Directory) β} {b : β}
    (h : d.perform (s >>= f) = (.ok b, d₁)) :
    ∃ a d₂, d.perform s = (.ok a, d₂) ∧ d₂.perform (f a) = (.ok b, d₁) := by
  rw [perform_bind] at h
  split at h
  · next a d₂ hs => exact ⟨a, d₂, hs, h⟩
  · cases h

/-- A step that fails does so in its first part or after it. -/
theorem of_perform_bind_error {s : Step (StateM Directory) α} {f : α → Step (StateM Directory) β} {e : CommandError}
    (h : d.perform (s >>= f) = (.error e, d₁)) : d.perform s = (.error e, d₁) ∨
      ∃ a d₂, d.perform s = (.ok a, d₂) ∧ d₂.perform (f a) = (.error e, d₁) := by
  rw [perform_bind] at h
  split at h
  · next a d₂ hs => exact .inr ⟨a, d₂, hs, h⟩
  · next hs =>
    cases h
    exact .inl hs

@[simp] theorem perform_liftResult {ε : Type} (d : Directory) (f : ε → CommandError) (r : Except ε α) :
    d.perform (liftResult f r) = (r.mapError f, d) := by
  cases r <;> rfl

theorem perform_lift (d : Directory) (x : StateM Directory α) :
    d.perform (liftM x) = (.ok (x.run d).1, (x.run d).2) := rfl

@[simp] theorem perform_readFile (d : Directory) (path : String) :
    d.perform (liftM (Host.readFile path : StateM Directory _)) = (.ok (d.read path), d) := rfl

theorem perform_appendFile (d : Directory) (path text : String) :
    d.perform (liftM (Host.appendFile path text : StateM Directory _)) = match d.append path text with
      | .ok d₁ => (.ok (.ok ()), d₁)
      | .error e => (.ok (.error e), d) := by
  have hrun : (Host.appendFile path text : StateM Directory _).run d = match d.append path text with
      | .ok d₁ => (.ok (), d₁)
      | .error e => (.error e, d) := rfl
  rw [perform_lift, hrun]
  cases d.append path text <;> rfl

/-! ## Plan files -/

/-- The value in a plan file, or why there is none. -/
def planValue (d : Directory) (path : String) : Except PlanFileError Json :=
  match d.read path with
  | .ok text => (Json.parse text).mapError .text
  | .error e => .error (.file e)

theorem perform_loadValue (d : Directory) (path : String) :
    d.perform (loadValue path) = ((d.planValue path).mapError (.planFile path), d) := by
  rw [loadValue, readText, perform_bind, perform_bind, perform_readFile, planValue]
  cases d.read path with
  | ok text =>
    simp only [perform_liftResult, Except.mapError]
    cases Json.parse text <;> rfl
  | error e => rfl

/-! ## Steps on a history -/

theorem perform_loadHistory (d : Directory) (path : String) :
    d.perform (loadHistory path) = (match d.read path with
      | .ok text => (History.ofText text).mapError fun b => .history (.line path b)
      | .error .notFound => .ok ⟨[]⟩
      | .error e => .error (.history (.file path e)), d) := by
  rw [loadHistory, perform_bind, perform_readFile]
  cases d.read path with
  | ok text => exact perform_liftResult d _ _
  | error e => cases e <;> rfl

theorem perform_appendHistory (d : Directory) (path : String) (h : History) (prompt : String) (p : Plan) :
    d.perform (appendHistory path h prompt p) = match d.append path (h.next prompt p).line with
      | .ok d₁ => (.ok (h.append prompt p), d₁)
      | .error e => (.error (.history (.file path e)), d) := by
  rw [appendHistory, perform_bind, perform_appendFile]
  cases d.append path (h.next prompt p).line <;> rfl

theorem of_perform_appendHistory {h h₁ : History} {prompt : String} {p : Plan}
    (ha : d.perform (appendHistory path h prompt p) = (.ok h₁, d₁)) :
    d.append path (h.next prompt p).line = .ok d₁ ∧ h₁ = h.append prompt p := by
  rw [perform_appendHistory] at ha
  split at ha
  · next hd =>
    cases ha
    exact ⟨hd, rfl⟩
  · cases ha

end Wireframe.Directory
