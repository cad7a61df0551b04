/-
  Connectivity.Table — a small keyed table. Rows stand in the order of their first insertion;
  writing a key that is present replaces its value in place, so a table built from `empty` has
  at most one row per key (`nodup_keys_insert`). What a table holds is read off `find?`, and
  each operation says what it does to that view.
-/

namespace Connectivity

structure Table (κ ν : Type) where
  rows : List (κ × ν) := []
  deriving DecidableEq, Repr

namespace Table

variable {κ ν : Type} [DecidableEq κ]

def empty : Table κ ν := ⟨[]⟩

def keys (t : Table κ ν) : List κ := t.rows.map (·.1)

def size (t : Table κ ν) : Nat := t.rows.length

/-- The value of the first row under `k`. -/
def lookup (k : κ) : List (κ × ν) → Option ν
  | [] => none
  | (k', v) :: rest => if k' = k then some v else lookup k rest

def find? (t : Table κ ν) (k : κ) : Option ν := lookup k t.rows

def contains (t : Table κ ν) (k : κ) : Bool := (t.find? k).isSome

/-- Replaces the value of the first row under `k`, or appends a row. -/
def put (k : κ) (v : ν) : List (κ × ν) → List (κ × ν)
  | [] => [(k, v)]
  | (k', v') :: rest => if k' = k then (k, v) :: rest else (k', v') :: put k v rest

def insert (t : Table κ ν) (k : κ) (v : ν) : Table κ ν := ⟨put k v t.rows⟩

def erase (t : Table κ ν) (k : κ) : Table κ ν := ⟨t.rows.filter (fun row => row.1 ≠ k)⟩

/-- Changes the value under `k`, if there is one. -/
def alter (t : Table κ ν) (k : κ) (f : ν → ν) : Table κ ν :=
  match t.find? k with
  | some v => t.insert k (f v)
  | none => t

/-! ## What the operations do to `find?` -/

@[simp] theorem find?_empty (k : κ) : (empty : Table κ ν).find? k = none := rfl

theorem lookup_put (k k' : κ) (v : ν) (rows : List (κ × ν)) :
    lookup k' (put k v rows) = if k = k' then some v else lookup k' rows := by
  induction rows with
  | nil => simp [put, lookup]
  | cons row rest ih =>
    obtain ⟨k₀, v₀⟩ := row
    by_cases h₀ : k₀ = k
    · subst h₀
      by_cases h : k₀ = k' <;> simp [put, lookup, h]
    · by_cases h : k₀ = k'
      · subst h
        simp [put, lookup, h₀, Ne.symm h₀]
      · simp [put, lookup, h₀, h, ih]

@[simp] theorem find?_insert (t : Table κ ν) (k k' : κ) (v : ν) :
    (t.insert k v).find? k' = if k = k' then some v else t.find? k' :=
  lookup_put k k' v t.rows

@[simp] theorem find?_erase (t : Table κ ν) (k k' : κ) :
    (t.erase k).find? k' = if k = k' then none else t.find? k' := by
  obtain ⟨rows⟩ := t
  simp only [erase, find?]
  induction rows with
  | nil => simp [lookup]
  | cons row rest ih =>
    obtain ⟨k₀, v₀⟩ := row
    by_cases h₀ : k₀ = k
    · subst h₀
      by_cases h : k₀ = k'
      · simp_all
      · simp_all [lookup]
    · by_cases h : k₀ = k'
      · subst h
        simp [lookup, h₀, Ne.symm h₀]
      · simp_all [lookup]

@[simp] theorem find?_alter (t : Table κ ν) (k k' : κ) (f : ν → ν) :
    (t.alter k f).find? k' = if k = k' then (t.find? k).map f else t.find? k' := by
  unfold alter
  by_cases h : k = k'
  · subst h
    cases hv : t.find? k <;> simp [hv]
  · cases hv : t.find? k <;> simp [h]

/-! ## Keys -/

theorem mem_keys_put (k x : κ) (v : ν) (rows : List (κ × ν)) :
    x ∈ (put k v rows).map (·.1) ↔ x = k ∨ x ∈ rows.map (·.1) := by
  induction rows with
  | nil => simp [put]
  | cons row rest ih =>
    obtain ⟨k₀, v₀⟩ := row
    by_cases h₀ : k₀ = k
    · subst h₀
      simp [put]
    · simp only [put, h₀, if_false, List.map_cons, List.mem_cons, ih]
      grind

theorem nodup_keys_insert {t : Table κ ν} (h : t.keys.Nodup) (k : κ) (v : ν) :
    (t.insert k v).keys.Nodup := by
  obtain ⟨rows⟩ := t
  simp only [keys, insert] at *
  induction rows with
  | nil => simp [put]
  | cons row rest ih =>
    obtain ⟨k₀, v₀⟩ := row
    simp only [List.map_cons, List.nodup_cons] at h
    by_cases h₀ : k₀ = k
    · subst h₀
      simpa [put] using h
    · simp only [put, h₀, if_false, List.map_cons, List.nodup_cons, mem_keys_put]
      exact ⟨by grind, ih h.2⟩

theorem nodup_keys_erase {t : Table κ ν} (h : t.keys.Nodup) (k : κ) : (t.erase k).keys.Nodup :=
  List.Nodup.sublist (List.Sublist.map _ List.filter_sublist) h

theorem mem_keys_iff (t : Table κ ν) (k : κ) : k ∈ t.keys ↔ (t.find? k).isSome := by
  obtain ⟨rows⟩ := t
  simp only [keys, find?]
  induction rows with
  | nil => simp [lookup]
  | cons row rest ih =>
    obtain ⟨k₀, v₀⟩ := row
    by_cases h₀ : k₀ = k
    · subst h₀
      simp [lookup]
    · simp only [List.map_cons, List.mem_cons, lookup, h₀, if_false, ih]
      simp [Ne.symm h₀]

/-! ## Taking back -/

theorem put_of_absent {k : κ} {rows : List (κ × ν)} (h : lookup k rows = none) (v : ν) :
    put k v rows = rows ++ [(k, v)] := by
  induction rows with
  | nil => rfl
  | cons row rows ih =>
    obtain ⟨k', v'⟩ := row
    unfold lookup at h
    split at h
    · cases h
    · rename_i hne
      rw [put, if_neg hne, ih h, List.cons_append]

theorem ne_of_absent {k : κ} {t : Table κ ν} (h : t.find? k = none) {row : κ × ν}
    (hrow : row ∈ t.rows) : row.1 ≠ k := by
  rintro rfl
  have hkey : row.1 ∈ t.keys := List.mem_map_of_mem hrow
  rw [mem_keys_iff, h] at hkey
  cases hkey

theorem erase_of_absent {k : κ} {t : Table κ ν} (h : t.find? k = none) : t.erase k = t := by
  refine congrArg Table.mk (List.filter_eq_self.mpr fun row hrow => ?_)
  rw [decide_eq_true_eq]
  exact ne_of_absent h hrow

theorem foldl_erase (ks : List κ) (t : Table κ ν) :
    ks.foldl erase t = ⟨t.rows.filter (fun row => row.1 ∉ ks)⟩ := by
  induction ks generalizing t with
  | nil => exact congrArg Table.mk (List.filter_eq_self.mpr (by simp)).symm
  | cons k ks ih =>
    rw [List.foldl_cons, ih, erase, List.filter_filter]
    simp [Bool.and_comm]

/-- A key that was put in last is taken out last, and the table is as if it had not been. -/
theorem foldl_erase_insert {k : κ} {t : Table κ ν} (h : t.find? k = none) (ks : List κ) (v : ν) :
    (ks ++ [k]).foldl erase (t.insert k v) = ks.foldl erase t := by
  have hrows : (t.insert k v).rows = t.rows ++ [(k, v)] := put_of_absent h v
  rw [foldl_erase, foldl_erase, hrows, List.filter_append]
  have hold : t.rows.filter (fun row => row.1 ∉ ks ++ [k]) =
      t.rows.filter (fun row => row.1 ∉ ks) := by
    refine List.filter_congr fun row hrow => ?_
    simp [ne_of_absent h hrow]
  rw [hold]
  simp

end Table

end Connectivity
