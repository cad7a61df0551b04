/-
  Connectivity.Proofs.Stores — what a store holds after fields were saved, and what is read from it.
  - `Store.Keeps`: a store has under each key what was last saved there, and an operation that fails
    changes nothing. `Store.Answering`: it can be read; `Store.Unfailing`: none of its operations fails. The
    volatile store is such a store, and the simulated one as far as no faults are queued.
  - `writeRows_cases`, `loadAll_cases`: rows are written and fields are read up to the first that fails.
  - So fields that are saved are what is loaded (`saveFields_ok`, `loadFields_ok`).
-/

import Mathlib.Logic.Function.Basic
import Connectivity.Proofs.Fields
import Connectivity.Simulation.Bench

namespace Connectivity

/-! ## Stores -/

/-- What is under each key, none where nothing is. -/
abbrev Contents := String → Option StoredValue

namespace Store

variable {τ : Type}

/-- A store whose state tells what it has under each key. -/
structure Keeps (S : Store τ) (contents : τ → Contents) : Prop where
  loads : ∀ {key v? t t'}, S.load key t = (.ok v?, t') → v? = contents t key
  loading : ∀ key t, contents (S.load key t).2 = contents t
  saves : ∀ {key v t t'}, S.save key v t = (.ok (), t') → contents t' = Function.update (contents t) key (some v)
  refuses : ∀ {key v t t' err}, S.save key v t = (.error err, t') → contents t' = contents t

/-- A store that does not fail while it is `working`, which it is still after an operation. -/
structure Unfailing (S : Store τ) (working : τ → Prop) : Prop where
  load : ∀ key t, working t → (∃ v?, (S.load key t).1 = .ok v?) ∧ working (S.load key t).2
  save : ∀ key v t, working t → (S.save key v t).1 = .ok () ∧ working (S.save key v t).2

/-- A store from which everything can be read while it is `reading`, which it is still after it was read. -/
structure Answering (S : Store τ) (reading : τ → Prop) : Prop where
  load : ∀ key t, reading t → (∃ v?, (S.load key t).1 = .ok v?) ∧ reading (S.load key t).2

theorem Unfailing.answering {S : Store τ} {working : τ → Prop} (hS : S.Unfailing working) : S.Answering working :=
  ⟨hS.load⟩

end Store

theorem VolatileStore.keeps : operations.Keeps fun s => s.entries.find? where
  loads h := by
    cases h
    rfl
  loading key s := rfl
  saves {key v s s'} h := by
    have h : VolatileStore.save key v s = (.ok (), s') := h
    unfold VolatileStore.save at h
    split at h <;> cases h
    funext key'
    simp only [Table.find?_insert, Function.update_apply, eq_comm]
  refuses {key v s s' err} h := by
    have h : VolatileStore.save key v s = (.error err, s') := h
    unfold VolatileStore.save at h
    split at h <;> cases h
    rfl

theorem VolatileStore.answering : operations.Answering fun _ => True := ⟨fun _ _ _ => ⟨⟨_, rfl⟩, trivial⟩⟩

theorem VolatileStore.unfailing : operations.Unfailing fun s => s.readOnly = false where
  load key s hs := ⟨⟨_, rfl⟩, hs⟩
  save key v s hs := by
    show (VolatileStore.save key v s).1 = .ok () ∧ (VolatileStore.save key v s).2.readOnly = false
    simp [VolatileStore.save, hs]

namespace Simulation

section
variable {κ ε σ α : Type} [DecidableEq κ]

/-- An operation is struck by a fault, or runs behind it. -/
theorem Faulty.behind_cases (k : κ) (run : σ → Except ε α × σ) (s : Faulty κ ε σ) :
    (∃ err, (behind k run s).1 = .error err ∧ (behind k run s).2.inner = s.inner) ∨
    (behind k run s).1 = (run s.inner).1 ∧ (behind k run s).2.inner = (run s.inner).2 := by
  unfold behind
  split
  · exact .inl ⟨_, rfl, rfl⟩
  · exact .inr ⟨rfl, rfl⟩
  · exact .inr ⟨rfl, rfl⟩

theorem Faulty.behind_clear {k : κ} {s : Faulty κ ε σ} (hs : s.queue k = []) (run : σ → Except ε α × σ) :
    behind k run s = ((run s.inner).1, { s with inner := (run s.inner).2 }) := by
  unfold behind
  rw [hs]

end

variable {τ : Type} {S : Store τ} {contents : τ → Contents} {working : τ → Prop}

theorem keeps_faultyStore (hS : S.Keeps contents) : (faultyStore S).Keeps fun t => contents t.inner where
  loads {key v? t t'} h := by
    have h : Faulty.behind (.load key) (S.load key) t = (.ok v?, t') := h
    rcases Faulty.behind_cases (.load key) (S.load key) t with ⟨err, herr, -⟩ | ⟨hanswer, -⟩
    · rw [h] at herr
      cases herr
    · rw [h] at hanswer
      exact hS.loads (Prod.ext hanswer.symm rfl)
  loading key t := by
    show contents (Faulty.behind (.load key) (S.load key) t).2.inner = contents t.inner
    rcases Faulty.behind_cases (.load key) (S.load key) t with ⟨err, -, hinner⟩ | ⟨-, hinner⟩ <;> rw [hinner]
    exact hS.loading key t.inner
  saves {key v t t'} h := by
    have h : Faulty.behind (.save key) (S.save key v) t = (.ok (), t') := h
    rcases Faulty.behind_cases (.save key) (S.save key v) t with ⟨err, herr, -⟩ | ⟨hanswer, hinner⟩
    · rw [h] at herr
      cases herr
    · rw [h] at hanswer hinner
      rw [hinner]
      exact hS.saves (Prod.ext hanswer.symm rfl)
  refuses {key v t t' err} h := by
    have h : Faulty.behind (.save key) (S.save key v) t = (.error err, t') := h
    rcases Faulty.behind_cases (.save key) (S.save key v) t with ⟨_, -, hinner⟩ | ⟨hanswer, hinner⟩
    · rw [h] at hinner
      rw [hinner]
    · rw [h] at hanswer hinner
      rw [hinner]
      exact hS.refuses (Prod.ext hanswer.symm rfl)

theorem answering_faultyStore {reading : τ → Prop} (hS : S.Answering reading) :
    (faultyStore S).Answering fun t => (∀ key, t.queue (.load key) = []) ∧ reading t.inner where
  load key t := by
    rintro ⟨hclear, ht⟩
    have hbehind : (faultyStore S).load key t = _ := Faulty.behind_clear (hclear key) (S.load key)
    obtain ⟨hanswer, ht'⟩ := hS.load key t.inner ht
    rw [hbehind]
    exact ⟨hanswer, hclear, ht'⟩

theorem unfailing_faultyStore (hS : S.Unfailing working) :
    (faultyStore S).Unfailing fun t => (∀ k, t.queue k = []) ∧ working t.inner where
  load key t := by
    rintro ⟨hclear, ht⟩
    have hbehind : (faultyStore S).load key t = _ := Faulty.behind_clear (hclear (.load key)) (S.load key)
    obtain ⟨hanswer, ht'⟩ := hS.load key t.inner ht
    rw [hbehind]
    exact ⟨hanswer, hclear, ht'⟩
  save key v t := by
    rintro ⟨hclear, ht⟩
    have hbehind : (faultyStore S).save key v t = _ := Faulty.behind_clear (hclear (.save key)) (S.save key v)
    obtain ⟨hanswer, ht'⟩ := hS.save key v t.inner ht
    rw [hbehind]
    exact ⟨hanswer, hclear, ht'⟩

end Simulation

/-! ## Saving -/

variable {τ : Type} {S : Store τ} {contents : τ → Contents} {working : τ → Prop}

/-- What is under each key after rows were written. -/
def Contents.written (c : Contents) (rows : List (String × StoredValue)) : Contents :=
  rows.foldl (fun c row => Function.update c row.1 (some row.2)) c

/-- Rows are written up to the first that the store refuses. -/
theorem writeRows_cases (hS : S.Keeps contents) (rows : List (String × StoredValue)) (t : τ) :
    ((writeRows S rows t).1 = .ok () ∧ contents (writeRows S rows t).2 = (contents t).written rows) ∨
    ∃ done row rest t' err, rows = done ++ row :: rest ∧ writeRows S done t = (.ok (), t') ∧
      (S.save row.1 row.2 t').1 = .error err ∧ (writeRows S rows t).1 = .error (.storage err) ∧
      contents (writeRows S rows t).2 = (contents t).written done := by
  induction rows generalizing t with
  | nil => exact .inl ⟨rfl, rfl⟩
  | cons row rows ih =>
    obtain ⟨key, v⟩ := row
    cases hx : S.save key v t with
    | mk answer t' =>
      cases answer with
      | error err =>
        have hrows : writeRows S ((key, v) :: rows) t = (.error (.storage err), t') := by simp [writeRows, hx]
        rw [hrows]
        exact .inr ⟨[], (key, v), rows, t, err, rfl, rfl, congrArg Prod.fst hx, rfl, hS.refuses hx⟩
      | ok =>
        have hkept := hS.saves hx
        have hrows (rows : List (String × StoredValue)) : writeRows S ((key, v) :: rows) t = writeRows S rows t' := by
          simp [writeRows, hx]
        rw [hrows rows]
        rcases ih t' with ⟨hok, hc⟩ | ⟨done, row, rest, t'', err, rfl, hdone, hsave, herr, hc⟩
        · exact .inl ⟨hok, by rw [hc, hkept]; rfl⟩
        · exact .inr ⟨(key, v) :: done, row, rest, t'', err, rfl, (hrows done).trans hdone, hsave, herr,
            by rw [hc, hkept]; rfl⟩

theorem Store.Unfailing.writeRows (hS : S.Unfailing working) (rows : List (String × StoredValue)) {t : τ}
    (ht : working t) : (writeRows S rows t).1 = .ok () ∧ working (writeRows S rows t).2 := by
  induction rows generalizing t with
  | nil => exact ⟨rfl, ht⟩
  | cons row rows ih =>
    obtain ⟨key, v⟩ := row
    obtain ⟨hanswer, ht'⟩ := hS.save key v t ht
    unfold Connectivity.writeRows
    split
    · rename_i hx
      rw [hx] at hanswer
      cases hanswer
    · rename_i hx
      rw [hx] at ht'
      exact ih ht'

/-- The rows of fields, as a record has them. -/
def rowsOf (p : Parameters) (fs : List Field) : List (String × StoredValue) := fs.map fun f => (f.key, f.read p)

theorem encodeAll_ok {p : Parameters} {fs : List Field} {rows : List (String × StoredValue)}
    (h : encodeAll p fs = .ok rows) : rows = rowsOf p fs := by
  induction fs generalizing rows with
  | nil =>
    cases h
    rfl
  | cons f fs ih =>
    unfold encodeAll at h
    split at h
    · cases h
    · rename_i row hrow
      split at h
      · cases h
      · rename_i rows' hrows
        cases h
        have hrow' : row = (f.key, f.read p) := by
          unfold Field.encode at hrow
          (repeat' split at hrow) <;> cases hrow
          all_goals rfl
        rw [ih hrows, hrow']
        rfl

/-- A key that no field of the rows has is left alone. -/
theorem written_of_ne (c : Contents) (p : Parameters) {fs : List Field} {key : String} (h : ∀ f ∈ fs, f.key ≠ key) :
    c.written (rowsOf p fs) key = c key := by
  induction fs generalizing c with
  | nil => rfl
  | cons f fs ih =>
    have hrest := ih (Function.update c f.key (some (f.read p))) fun g hg => h g (.tail f hg)
    exact hrest.trans (Function.update_of_ne (h f (.head fs)).symm _ _)

theorem written_key (c : Contents) (p : Parameters) (fs : List Field) (g : Field) :
    c.written (rowsOf p fs) g.key = if g ∈ fs then some (g.read p) else c g.key := by
  induction fs generalizing c with
  | nil => rfl
  | cons f fs ih =>
    have hrest := ih (Function.update c f.key (some (f.read p)))
    refine Eq.trans hrest ?_
    by_cases hgf : g = f
    · subst hgf
      simp
    · have hkey : g.key ≠ f.key := fun h => hgf (Field.key_injective h)
      simp [Function.update_of_ne hkey, hgf]

theorem saveFields_ok (hS : S.Keeps contents) {m : Mask} {p : Parameters} {t : τ}
    (h : (saveFields S m p t).1 = .ok ()) :
    contents (saveFields S m p t).2 = (contents t).written (rowsOf p m.fields) := by
  unfold saveFields at h ⊢
  split at h
  · cases h
  · rename_i rows hrows
    obtain rfl := encodeAll_ok hrows
    rcases writeRows_cases hS (rowsOf p m.fields) t with ⟨-, hc⟩ | ⟨_, _, _, _, _, -, -, -, herr, -⟩
    · exact hc
    · rw [h] at herr
      cases herr

theorem Store.Unfailing.saveFields (hS : S.Unfailing working) (m : Mask) (p : Parameters) {t : τ} (ht : working t) :
    working (saveFields S m p t).2 := by
  unfold Connectivity.saveFields
  split
  · exact ht
  · exact (hS.writeRows _ ht).2

/-! ## Loading -/

/-- What a field is in a store: the value under its key, or what an absent key stands for. -/
def Contents.valueOf (c : Contents) (f : Field) : StoredValue := (c f.key).getD f.unset

/-- Every value that is there has the type of its field. -/
def Contents.Typed (c : Contents) : Prop := ∀ f v, c (Field.key f) = some v → f.ofType v = true

theorem Contents.Typed.valueOf {c : Contents} (hc : c.Typed) (f : Field) : f.ofType (c.valueOf f) = true := by
  unfold Contents.valueOf
  cases hv : c f.key with
  | none => exact f.ofType_unset
  | some v => exact hc f v hv

namespace Store

/-- The store after keys were read one after the other, whatever it answered. -/
def readAll (S : Store τ) : List Field → τ → τ
  | [], t => t
  | f :: fs, t => readAll S fs (S.load f.key t).2

/-- A field cannot be read: the store fails, or has a value of another type under the key. -/
def Unreadable (S : Store τ) (contents : τ → Contents) (f : Field) (t : τ) : Prop :=
  (∃ err, (S.load f.key t).1 = .error err) ∨ ∃ v, contents t f.key = some v ∧ f.ofType v = false

/-- Fields that can be read one after the other. -/
def Readable (S : Store τ) (contents : τ → Contents) : List Field → τ → Prop
  | [], _ => True
  | f :: fs, t => ¬ S.Unreadable contents f t ∧ Readable S contents fs (S.load f.key t).2

theorem Readable.not_unreadable {done rest : List Field} {f : Field} {t : τ}
    (h : S.Readable contents (done ++ f :: rest) t) : ¬ S.Unreadable contents f (S.readAll done t) := by
  induction done generalizing t with
  | nil => exact h.1
  | cons g done ih => exact ih h.2

/-- What is there can be written to its field if it can be read. -/
theorem Keeps.ofType_valueOf (hS : S.Keeps contents) {f : Field} {t t' : τ} {v? : Option StoredValue}
    (hx : S.load f.key t = (.ok v?, t')) : f.ofType ((contents t).valueOf f) = true ↔ ¬ S.Unreadable contents f t := by
  unfold Unreadable Contents.valueOf
  rw [hx, ← hS.loads hx]
  cases v? <;> simp

end Store

/-- Fields are read up to the first that cannot be, and the others are left alone. -/
theorem loadAll_cases (hS : S.Keeps contents) (fs : List Field) (found : Nat) (p : Parameters) (t : τ) :
    contents (loadAll S fs found p t).2 = contents t ∧
    ∃ done rest, fs = done ++ rest ∧ S.Readable contents done t ∧
      (∀ f, f.read (loadAll S fs found p t).1.parameters = if f ∈ done then (contents t).valueOf f else f.read p) ∧
      (rest = [] ∧ (∃ n, (loadAll S fs found p t).1.result = .ok n) ∨
        ∃ f rest', rest = f :: rest' ∧ S.Unreadable contents f (S.readAll done t) ∧
          ∃ err, (loadAll S fs found p t).1.result = .error (.storage err)) := by
  induction fs generalizing found p t with
  | nil => exact ⟨rfl, [], [], rfl, trivial, by simp [loadAll], .inl ⟨rfl, _, rfl⟩⟩
  | cons f fs ih =>
    unfold loadAll
    have hkept := hS.loading f.key t
    cases hx : S.load f.key t with
    | mk answer t' =>
      rw [hx] at hkept
      cases answer with
      | error err =>
        have hf : S.Unreadable contents f t := .inl ⟨err, congrArg Prod.fst hx⟩
        exact ⟨hkept, [], f :: fs, rfl, trivial, by simp, .inr ⟨f, fs, rfl, hf, err, rfl⟩⟩
      | ok stored =>
        have htype := hS.ofType_valueOf hx
        obtain rfl := hS.loads hx
        have hsome := f.write?_isSome p ((contents t).valueOf f)
        simp only
        split
        · rename_i hnone
          have hf : S.Unreadable contents f t := by
            rw [Contents.valueOf, hnone] at hsome
            by_contra hf
            exact absurd (hsome.trans (htype.mpr hf)) Bool.false_ne_true
          exact ⟨hkept, [], f :: fs, rfl, trivial, by simp, .inr ⟨f, fs, rfl, hf, _, rfl⟩⟩
        · rename_i p' hwrite
          have hf : ¬ S.Unreadable contents f t := by
            rw [Contents.valueOf, hwrite] at hsome
            exact htype.mp hsome.symm
          obtain ⟨hc, done, rest, rfl, hreadable, hread, hresult⟩ :=
            ih (if (contents t f.key).isSome = true then found + 1 else found) p' t'
          have hstate : t' = (S.load f.key t).2 := congrArg Prod.snd hx.symm
          refine ⟨hc.trans hkept, f :: done, rest, rfl, ⟨hf, hstate ▸ hreadable⟩, fun g => ?_, ?_⟩
          -- The rest is read from the same contents, over a record in which `f` is set.
          · have hvalue : (contents t' : Contents).valueOf = (contents t).valueOf := by rw [hkept]
            rw [hread, hvalue, Field.read_write? hwrite]
            by_cases hg : g ∈ done
            · simp [hg]
            · by_cases hgf : f = g
              · simp [hgf, Contents.valueOf]
              · simp [hg, hgf, Ne.symm hgf]
          · rw [Store.readAll, ← hstate]
            exact hresult

theorem Store.Answering.loadAll (hS : S.Keeps contents) (hA : S.Answering working) (fs : List Field) (found : Nat)
    (p : Parameters) {t : τ} (ht : working t) (hc : ∀ f ∈ fs, f.ofType ((contents t).valueOf f) = true) :
    (∃ n, (loadAll S fs found p t).1.result = .ok n) ∧ working (loadAll S fs found p t).2 := by
  induction fs generalizing found p t with
  | nil => exact ⟨⟨found, rfl⟩, ht⟩
  | cons f fs ih =>
    obtain ⟨⟨v?, hanswer⟩, ht'⟩ := hA.load f.key t ht
    have hkept := hS.loading f.key t
    unfold Connectivity.loadAll
    cases hx : S.load f.key t with
    | mk answer t' =>
      rw [hx] at hanswer ht' hkept
      obtain rfl : answer = .ok v? := hanswer
      obtain rfl := hS.loads hx
      simp only
      split
      · rename_i hnone
        have hsome := f.write?_isSome p ((contents t).valueOf f)
        rw [hc f (.head fs), Contents.valueOf, hnone] at hsome
        cases hsome
      · exact ih _ _ ht' fun g hg => hkept.symm ▸ hc g (.tail f hg)

/-- All selected fields are read, or those before one that cannot be. -/
theorem loadFields_cases (hS : S.Keeps contents) (m : Mask) (p : Parameters) (t : τ) :
    ((∃ n, (loadFields S m p t).1.result = .ok n) ∧ S.Readable contents m.fields t ∧
      ∀ f, f.read (loadFields S m p t).1.parameters = if m.has f then (contents t).valueOf f else f.read p) ∨
    ∃ done f rest err, m.fields = done ++ f :: rest ∧ S.Readable contents done t ∧
      S.Unreadable contents f (S.readAll done t) ∧ (loadFields S m p t).1.result = .error (.storage err) ∧
      ∀ g, g.read (loadFields S m p t).1.parameters = if g ∈ done then (contents t).valueOf g else g.read p := by
  obtain ⟨-, done, rest, hfields, hreadable, hread, ⟨rfl, hok⟩ | ⟨f, rest, rfl, hf, err, herr⟩⟩ :=
    loadAll_cases hS m.fields 0 p t
  · obtain rfl : m.fields = done := hfields.trans (List.append_nil done)
    refine .inl ⟨hok, hreadable, fun f => (hread f).trans ?_⟩
    simp only [m.mem_fields]
  · exact .inr ⟨done, f, rest, err, hfields, hreadable, hf, herr, hread⟩

/-- The selected fields are as the store has them, and the others as they were. -/
theorem loadFields_ok (hS : S.Keeps contents) (hA : S.Answering working) (m : Mask) (p : Parameters) {t : τ}
    (ht : working t) (hc : ∀ f, m.has f = true → f.ofType ((contents t).valueOf f) = true) :
    (∃ n, (loadFields S m p t).1.result = .ok n) ∧
      ∀ f, f.read (loadFields S m p t).1.parameters = if m.has f then (contents t).valueOf f else f.read p := by
  obtain ⟨⟨n, hok⟩, -⟩ := hA.loadAll hS m.fields 0 p ht fun f hf => hc f ((m.mem_fields f).mp hf)
  rcases loadFields_cases hS m p t with ⟨hok', -, hread⟩ | ⟨_, _, _, err, -, -, -, herr, -⟩
  · exact ⟨hok', hread⟩
  · exact absurd (hok.symm.trans herr) nofun

end Connectivity
