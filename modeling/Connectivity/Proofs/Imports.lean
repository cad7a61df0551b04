/-
  Connectivity.Proofs.Imports — what an import of older settings leaves in the store.
  - `LegacySource.Keeps`: a source that has the same to say however often it is asked. `LegacySource.logged`:
    it writes down its calls, and an import does not see that (`run_logged`).
  - `usable?`: an item is usable if it can be read, can be decoded and is accepted. An import writes the items
    that are usable, each by itself (`LegacyData.imported`), and a second import finds them written
    (`imported_imported`).
  - `run_imported`: so an import is known by the data of its source.
-/

import Connectivity.Proofs.Interruptions
import Connectivity.Simulation.LegacySettings

namespace Connectivity

/-! ## Sources -/

/-- What a source has to say: to being connected, and to being asked for an item. -/
structure LegacyData where
  connect : Except PlatformError Unit
  item : LegacyItem → Except PlatformError (List UInt8)

inductive LegacyCall where
  | connect
  | item (i : LegacyItem)
  | disconnect
  deriving DecidableEq

/-- A source with the calls so far, the latest first. -/
structure LegacyLog (μ : Type) where
  inner : μ
  calls : List LegacyCall := []

namespace LegacySource

variable {μ : Type}

/-- A source whose data no call changes. Whether it needs to be imported may change, and so may what is said
    to a disconnection. -/
structure Keeps (L : LegacySource μ) (data : μ → LegacyData) : Prop where
  connects : ∀ x, (L.connect x).1 = (data x).connect
  answers : ∀ i x, (L.item i x).1 = (data x).item i
  connecting : ∀ x, data (L.connect x).2 = data x
  asking : ∀ i x, data (L.item i x).2 = data x
  disconnecting : ∀ x, data (L.disconnect x).2 = data x

def isNeeded (L : LegacySource μ) (x : μ) : Bool := L.needsImport .ethernet x || L.needsImport .wifi x

def logged (L : LegacySource μ) : LegacySource (LegacyLog μ) where
  needsImport kind x := L.needsImport kind x.inner
  connect x := ((L.connect x.inner).1, ⟨(L.connect x.inner).2, .connect :: x.calls⟩)
  disconnect x := ((L.disconnect x.inner).1, ⟨(L.disconnect x.inner).2, .disconnect :: x.calls⟩)
  item i x := ((L.item i x.inner).1, ⟨(L.item i x.inner).2, .item i :: x.calls⟩)

end LegacySource

/-! ## Data -/

/-- The value of an item, if the item can be read, can be decoded and is accepted for keeping. -/
def LegacyItem.usable? (i : LegacyItem) (answer : Except PlatformError (List UInt8)) : Option StoredValue := do
  let raw ← answer.toOption
  let p ← (Legacy.parametersOf i.field raw).toOption
  (validate (.single i.field) p .save).toOption
  return i.field.read p

/-- The optional items that mean something for a kind of interface. -/
def LegacyItem.wanted (kind : InterfaceKind) : List LegacyItem :=
  optional.filter (fun i => !i.wifiOnly || kind = .wifi)

theorem toOption_eq_some_iff {ε α : Type} {x : Except ε α} {a : α} : x.toOption = some a ↔ x = .ok a := by
  cases x <;> simp [Except.toOption]

theorem LegacyItem.field_injective : Function.Injective field := by
  intro i j h
  cases i <;> cases j <;> first | rfl | cases h

namespace LegacyData

/-- The kind of interface that the data is for, with its number. -/
def kind? (d : LegacyData) : Option (Int × InterfaceKind) := do
  let raw ← (d.item .netifKind).toOption
  let n ← (Legacy.itemNumber raw).toOption
  let kind ← InterfaceKind.ofRaw? n
  return (n, kind)

theorem kind?_eq_some_iff {d : LegacyData} {n : Int} {kind : InterfaceKind} :
    d.kind? = some (n, kind) ↔
      ∃ raw, d.item .netifKind = .ok raw ∧ Legacy.itemNumber raw = .ok n ∧ InterfaceKind.ofRaw? n = some kind := by
  simp [kind?, Option.bind_eq_some_iff, toOption_eq_some_iff]

/-- What is under each key after items were imported one after the other. -/
def imported (d : LegacyData) (items : List LegacyItem) (c : Contents) : Contents :=
  items.foldl
    (fun c i =>
      match i.usable? (d.item i) with
      | some v => Function.update c i.field.key (some v)
      | none => c)
    c

variable {d : LegacyData}

theorem imported_cons (i : LegacyItem) (items : List LegacyItem) (c : Contents) :
    d.imported (i :: items) c = d.imported items (d.imported [i] c) := rfl

theorem imported_single (i : LegacyItem) (c : Contents) (key : String) :
    d.imported [i] c key = if key = i.field.key then (i.usable? (d.item i)).or (c key) else c key := by
  unfold imported
  cases hv : i.usable? (d.item i) with
  | none => simp [hv]
  | some v => simp [hv, Function.update_apply]

theorem imported_of_ne {items : List LegacyItem} (c : Contents) {key : String} (h : ∀ i ∈ items, i.field.key ≠ key) :
    d.imported items c key = c key := by
  induction items generalizing c with
  | nil => rfl
  | cons i items ih =>
    rw [imported_cons, ih _ fun j hj => h j (.tail i hj), imported_single, if_neg (h i (.head items)).symm]

/-- An item's key has the item's value if that is usable, and keeps what it has if not. -/
theorem imported_key {items : List LegacyItem} (c : Contents) {i : LegacyItem} (hi : i ∈ items) :
    d.imported items c i.field.key = (i.usable? (d.item i)).or (c i.field.key) := by
  induction items generalizing c with
  | nil => cases hi
  | cons j items ih =>
    rw [imported_cons]
    by_cases hrest : i ∈ items
    · rw [ih _ hrest, imported_single]
      split
      · rename_i hkey
        rw [LegacyItem.field_injective (Field.key_injective hkey), ← Option.or_assoc, Option.or_self]
      · rfl
    · obtain rfl : i = j := (List.mem_cons.mp hi).resolve_right hrest
      have hother : ∀ j ∈ items, j.field.key ≠ i.field.key := fun j hj hkey =>
        hrest (LegacyItem.field_injective (Field.key_injective hkey) ▸ hj)
      rw [imported_of_ne _ hother, imported_single, if_pos rfl]

/-- What was imported once is there to be found. -/
theorem imported_imported (items : List LegacyItem) (c : Contents) :
    d.imported items (d.imported items c) = d.imported items c := by
  funext key
  by_cases hkey : ∃ i ∈ items, i.field.key = key
  · obtain ⟨i, hi, rfl⟩ := hkey
    rw [imported_key _ hi, imported_key _ hi, ← Option.or_assoc, Option.or_self]
  · exact imported_of_ne _ fun i hi h => hkey ⟨i, hi, h⟩

end LegacyData

/-! ## One item -/

theorem Mask.fields_single (f : Field) : (Mask.single f).fields = [f] ∧ (Mask.single f).isEmpty = false := by
  have h : ∀ f ∈ Field.all, (Mask.single f).fields = [f] ∧ (Mask.single f).isEmpty = false := by decide +kernel
  exact h f f.mem_all

namespace ControlPlane

variable {σ τ μ : Type} {M : ControlPlane σ τ} {s : State σ τ} {contents : τ → Contents} {working : τ → Prop}

/-- In a store that does not fail, what is accepted is written. -/
theorem saveParameters_written (hS : M.store.Keeps contents) (hU : M.store.Unfailing working) (hw : working s.store)
    {r : Modes} (hlock : s.roster.lock = .ok r) {m : Mask} {p : Parameters} (hm : m.isEmpty = false)
    (hvalid : validate m p .save = .ok ()) :
    ∃ t, M.saveParameters m p s = (.ok (), { s with store := t }) ∧ working t ∧
      contents t = (contents s.store).written (rowsOf p m.fields) := by
  obtain ⟨hok, hw'⟩ := hU.writeRows (rowsOf p m.fields) hw
  have hsave : M.saveParameters m p s =
      (.ok (), { s with store := (writeRows M.store (rowsOf p m.fields) s.store).2 }) := by
    simp [saveParameters, hm, hlock, hvalid, saveFields, encode_of_validate hvalid, hok]
  refine ⟨_, hsave, hw', ?_⟩
  have hwritten := (saveParameters_ok hS (congrArg Prod.fst hsave)).2
  rw [hsave] at hwritten
  exact hwritten

end ControlPlane

namespace Legacy

open ControlPlane

variable {σ τ μ : Type} {M : ControlPlane σ τ} {L : LegacySource μ} {s : State σ τ} {x : μ} {contents : τ → Contents}
  {working : τ → Prop} {data : μ → LegacyData}

/-! ## The store -/

/-- An item is written if it is usable, and else nothing is. -/
theorem importItem_imported (hL : L.Keeps data) (hS : M.store.Keeps contents) (hU : M.store.Unfailing working)
    (hw : working s.store) {r : Modes} (hlock : s.roster.lock = .ok r) (i : LegacyItem) :
    ∃ answer t x', importItem M L i s x = (answer, { s with store := t }, x') ∧ data x' = data x ∧ working t ∧
      answer.isOk = (i.usable? ((data x).item i)).isSome ∧
      contents t = (data x).imported [i] (contents s.store) := by
  have hanswer := hL.answers i x
  have hdata := hL.asking i x
  -- Where nothing is usable, nothing is written.
  have hkept (hnone : i.usable? ((data x).item i) = none) :
      false = (i.usable? ((data x).item i)).isSome ∧ contents s.store = (data x).imported [i] (contents s.store) := by
    rw [hnone]
    unfold LegacyData.imported
    simp only [List.foldl_cons, List.foldl_nil, hnone]
    exact ⟨rfl, trivial⟩
  unfold importItem
  cases hx : L.item i x with
  | mk answer x' =>
    rw [hx] at hanswer hdata
    cases answer with
    | error err =>
      exact ⟨_, s.store, x', rfl, hdata, hw, hkept (by rw [← hanswer]; rfl)⟩
    | ok raw =>
      cases hp : parametersOf i.field raw with
      | error err =>
        refine ⟨.error err, s.store, x', by simp only [hp], hdata, hw, hkept ?_⟩
        simp [← hanswer, LegacyItem.usable?, Except.toOption, hp]
      | ok p =>
        obtain ⟨hfields, hm⟩ := Mask.fields_single i.field
        cases hvalid : validate (.single i.field) p .save with
        | error e =>
          have hsave : M.saveParameters (.single i.field) p s = (.error e, s) := by
            simp [saveParameters, hm, hlock, hvalid]
          refine ⟨.error e, s.store, x', by simp only [hp, hsave], hdata, hw, hkept ?_⟩
          simp [← hanswer, LegacyItem.usable?, Except.toOption, hp, hvalid]
        | ok =>
          obtain ⟨t, hsave, hw', hc⟩ := saveParameters_written hS hU hw hlock hm hvalid
          have husable : i.usable? ((data x).item i) = some (i.field.read p) := by
            simp [← hanswer, LegacyItem.usable?, Except.toOption, hp, hvalid]
          refine ⟨.ok (), t, x', by simp only [hp, hsave], hdata, hw', by rw [husable]; rfl, ?_⟩
          unfold LegacyData.imported
          simp only [List.foldl_cons, List.foldl_nil, husable]
          rw [hc, hfields]
          rfl

theorem importItems_imported (hL : L.Keeps data) (hS : M.store.Keeps contents) (hU : M.store.Unfailing working)
    (hw : working s.store) {r : Modes} (hlock : s.roster.lock = .ok r) (items : List LegacyItem) :
    ∃ t x', importItems M L items s x = ({ s with store := t }, x') ∧ data x' = data x ∧ working t ∧
      contents t = (data x).imported items (contents s.store) := by
  induction items generalizing s x with
  | nil => exact ⟨s.store, x, rfl, rfl, hw, rfl⟩
  | cons i items ih =>
    obtain ⟨answer, t, x', hitem, hdata, hw', -, hc⟩ := importItem_imported (x := x) hL hS hU hw hlock i
    obtain ⟨t', x'', hitems, hdata', hw'', hc'⟩ := ih (s := { s with store := t }) (x := x') hw' hlock
    refine ⟨t', x'', by simp only [importItems, hitem, hitems], hdata'.trans hdata, hw'', ?_⟩
    rw [hc', hdata, hc]
    rfl

theorem parametersOf_netifKind {raw : List UInt8} {n : Int} (h : itemNumber raw = .ok n) :
    parametersOf LegacyItem.netifKind.field raw = .ok { normal.netifKind := n } := by
  show (itemNumber raw).map _ = _
  rw [h]
  rfl

/-- The interface kind is usable where it is known. -/
theorem usable_of_kind {d : LegacyData} {n : Int} {kind : InterfaceKind} (h : d.kind? = some (n, kind)) :
    LegacyItem.netifKind.usable? (d.item .netifKind) = some (.number n) := by
  obtain ⟨raw, hraw, hn, hkind⟩ := LegacyData.kind?_eq_some_iff.mp h
  have hp := parametersOf_netifKind hn
  have hvalid : validate (.single LegacyItem.netifKind.field) { normal.netifKind := n } .save = .ok () := by
    refine validate_ok_iff.mpr fun f hf => ?_
    obtain rfl : f = .number .netifKind := by
      have hf := ((Mask.single LegacyItem.netifKind.field).mem_fields f).mpr hf
      rw [(Mask.fields_single _).1] at hf
      exact List.mem_singleton.mp hf
    unfold InterfaceKind.ofRaw? at hkind
    split at hkind
    · subst n
      rfl
    · split at hkind
      · subst n
        rfl
      · cases hkind
  simp [LegacyItem.usable?, hraw, Except.toOption, hp, hvalid]
  rfl

/-- Where the kind is known, it is imported as any item is, and then the items for it are. -/
theorem importAll_of_kind (hL : L.Keeps data) {n : Int} {kind : InterfaceKind} (h : (data x).kind? = some (n, kind)) :
    importAll M L s x =
      match importItem M L .netifKind s x with
      | (.error err, s, x) => (.error err, s, x)
      | (.ok _, s, x) =>
        let (s, x) := importItems M L (LegacyItem.wanted kind) s x
        (.ok (), s, x) := by
  obtain ⟨raw, hraw, hn, hkind⟩ := LegacyData.kind?_eq_some_iff.mp h
  rw [← hL.answers] at hraw
  have hp := parametersOf_netifKind hn
  unfold importAll importItem
  cases hx : L.item .netifKind x with
  | mk answer x' =>
    rw [hx] at hraw
    obtain rfl : answer = .ok raw := hraw
    simp only [hn, hkind, hp]
    cases hsave : M.saveParameters (.single (.number .netifKind)) { normal.netifKind := n } s with
    | mk answer s' => cases answer <;> simp [LegacyItem.field, hsave, LegacyItem.wanted]

theorem importAll_of_none (hL : L.Keeps data) (h : (data x).kind? = none) :
    ∃ e x', importAll M L s x = (.error e, s, x') ∧ data x' = data x := by
  have hanswer := hL.answers .netifKind x
  have hdata := hL.asking .netifKind x
  unfold importAll
  cases hx : L.item .netifKind x with
  | mk answer x' =>
    rw [hx] at hanswer hdata
    cases answer with
    | error err => exact ⟨.platform err, x', rfl, hdata⟩
    | ok raw =>
      cases hn : itemNumber raw with
      | error e => exact ⟨e, x', by simp only [hn], hdata⟩
      | ok n =>
        cases hkind : InterfaceKind.ofRaw? n with
        | none => exact ⟨.legacyInterfaceKind n, x', by simp only [hn, hkind], hdata⟩
        | some kind =>
          have hsome : (data x).kind? = some (n, kind) :=
            LegacyData.kind?_eq_some_iff.mpr ⟨raw, hanswer.symm, hn, hkind⟩
          rw [h] at hsome
          cases hsome

/-- Everything for an interface of the kind that the data is for is imported, or nothing is. -/
theorem importAll_imported (hL : L.Keeps data) (hS : M.store.Keeps contents) (hU : M.store.Unfailing working)
    (hw : working s.store) {r : Modes} (hlock : s.roster.lock = .ok r) :
    ∃ answer t x', importAll M L s x = (answer, { s with store := t }, x') ∧ data x' = data x ∧ working t ∧
      ((data x).kind? = none ∧ (∃ e, answer = .error e) ∧ t = s.store ∨
        ∃ n kind, (data x).kind? = some (n, kind) ∧ answer = .ok () ∧
          contents t = (data x).imported (.netifKind :: LegacyItem.wanted kind) (contents s.store)) := by
  cases hkind : (data x).kind? with
  | none =>
    obtain ⟨e, x', hall, hdata⟩ := importAll_of_none (M := M) (s := s) hL hkind
    exact ⟨.error e, s.store, x', hall, hdata, hw, .inl ⟨rfl, ⟨e, rfl⟩, rfl⟩⟩
  | some found =>
    obtain ⟨n, kind⟩ := found
    obtain ⟨answer, t, x', hitem, hdata, hw', hok, hc⟩ := importItem_imported (x := x) hL hS hU hw hlock .netifKind
    obtain ⟨t', x'', hitems, hdata', hw'', hc'⟩ :=
      importItems_imported (s := { s with store := t }) (x := x') hL hS hU hw' hlock (LegacyItem.wanted kind)
    rw [usable_of_kind hkind] at hok
    refine ⟨.ok (), t', x'', ?_, hdata'.trans hdata, hw'', .inr ⟨n, kind, rfl, rfl, ?_⟩⟩
    · rw [importAll_of_kind hL hkind, hitem]
      cases answer with
      | error e => cases hok
      | ok => simp only [hitems]
    · rw [hc', hdata, hc]
      rfl

theorem run_idle (h : L.isNeeded x = false) : Legacy.run M L s x = (.ok (), s, x) :=
  if_neg (ne_true_of_eq_false h)

theorem run_needed (h : L.isNeeded x = true) :
    Legacy.run M L s x =
      match L.connect x with
      | (.error err, x) => (.error (.platform err), s, x)
      | (.ok _, x) =>
        let (result, s, x) := importAll M L s x
        (result, s, (L.disconnect x).2) :=
  if_pos h

/-- A run finds nothing to import, or cannot connect, or ends with what an import of everything gives. -/
theorem run_cases (hL : L.Keeps data) (hS : M.store.Keeps contents) (hU : M.store.Unfailing working)
    (hw : working s.store) {r : Modes} (hlock : s.roster.lock = .ok r) :
    ∃ answer t x', Legacy.run M L s x = (answer, { s with store := t }, x') ∧ data x' = data x ∧ working t ∧
      (L.isNeeded x = false ∧ answer = .ok () ∧ t = s.store ∧ x' = x ∨
        L.isNeeded x = true ∧ (∃ err, (data x).connect = .error err ∧ answer = .error (.platform err)) ∧ t = s.store ∨
        L.isNeeded x = true ∧ (data x).connect = .ok () ∧
          ((data x).kind? = none ∧ (∃ e, answer = .error e) ∧ t = s.store ∨
            ∃ n kind, (data x).kind? = some (n, kind) ∧ answer = .ok () ∧
              contents t = (data x).imported (.netifKind :: LegacyItem.wanted kind) (contents s.store))) := by
  by_cases hneeded : L.isNeeded x = true
  · have hanswer := hL.connects x
    have hdata := hL.connecting x
    rw [run_needed hneeded]
    cases hx : L.connect x with
    | mk answer x' =>
      rw [hx] at hanswer hdata
      cases answer with
      | error err => exact ⟨_, s.store, x', rfl, hdata, hw, .inr (.inl ⟨hneeded, ⟨err, hanswer.symm, rfl⟩, rfl⟩)⟩
      | ok =>
        obtain ⟨answer, t, x'', hall, hdata', hw', houtcome⟩ := importAll_imported (x := x') hL hS hU hw hlock
        rw [hdata] at hdata' houtcome
        refine ⟨answer, t, (L.disconnect x'').2, by simp only [hall], (hL.disconnecting x'').trans hdata', hw', ?_⟩
        exact .inr (.inr ⟨hneeded, hanswer.symm, houtcome⟩)
  · have hidle := eq_false_of_ne_true hneeded
    exact ⟨.ok (), s.store, x, run_idle hidle, rfl, hw, .inl ⟨hidle, rfl, rfl, rfl⟩⟩

/-- A second run finds in the store what it would write, or does what the first did. -/
theorem run_again (hL : L.Keeps data) (hS : M.store.Keeps contents) (hU : M.store.Unfailing working)
    (hw : working s.store) {r : Modes} (hlock : s.roster.lock = .ok r) {answer : Except Error Unit} {s' : State σ τ}
    {x' : μ} (hrun : Legacy.run M L s x = (answer, s', x')) :
    contents (Legacy.run M L s' x').2.1.store = contents s'.store := by
  obtain ⟨answer₁, t₁, x₁, hrun₁, hdata₁, hw₁, hcases₁⟩ := run_cases (x := x) hL hS hU hw hlock
  obtain ⟨rfl, rfl, rfl⟩ : answer₁ = answer ∧ { s with store := t₁ } = s' ∧ x₁ = x' := by
    simpa using hrun₁.symm.trans hrun
  obtain ⟨answer₂, t₂, x₂, hrun₂, -, -, hcases₂⟩ :=
    run_cases (s := { s with store := t₁ }) (x := x₁) hL hS hU hw₁ hlock
  rw [hrun₂]
  rw [hdata₁] at hcases₂
  rcases hcases₂ with ⟨-, -, rfl, -⟩ | ⟨-, -, rfl⟩ | ⟨hneeded, hconnect, ⟨-, -, rfl⟩ | ⟨n, kind, hkind, -, hc₂⟩⟩
  · rfl
  · rfl
  · rfl
  · rcases hcases₁ with ⟨hidle, -, -, rfl⟩ | ⟨-, ⟨err, herr, -⟩, -⟩ | ⟨-, -, ⟨hnone, -⟩ | ⟨n', kind', hkind', -, hc₁⟩⟩
    · exact absurd (hidle.symm.trans hneeded) Bool.false_ne_true
    · cases hconnect.symm.trans herr
    · cases hkind.symm.trans hnone
    · cases hkind.symm.trans hkind'
      show contents t₂ = contents t₁
      rw [hc₂, hc₁, LegacyData.imported_imported]

/-! ## The calls -/

theorem importItem_logged (M : ControlPlane σ τ) (L : LegacySource μ) (i : LegacyItem) (s : State σ τ)
    (y : LegacyLog μ) :
    importItem M L.logged i s y =
      let (answer, s, x) := importItem M L i s y.inner
      (answer, s, ⟨x, .item i :: y.calls⟩) := by
  unfold importItem LegacySource.logged
  cases hx : L.item i y.inner with
  | mk answer x =>
    cases answer with
    | error err => simp only [hx]
    | ok raw => cases hp : parametersOf i.field raw <;> simp only [hx, hp]

theorem importItems_logged (items : List LegacyItem) (s : State σ τ) (y : LegacyLog μ) :
    importItems M L.logged items s y =
      let (s, x) := importItems M L items s y.inner
      (s, ⟨x, items.reverse.map .item ++ y.calls⟩) := by
  induction items generalizing s y with
  | nil => rfl
  | cons i items ih => simp [importItems, importItem_logged, ih]

/-- An import of everything asks for items and does nothing else with the source. -/
theorem importAll_logged (s : State σ τ) (y : LegacyLog μ) :
    ∃ asked : List LegacyItem, importAll M L.logged s y =
      let (answer, s, x) := importAll M L s y.inner
      (answer, s, ⟨x, asked.map .item ++ y.calls⟩) := by
  unfold importAll
  have hlogged : L.logged.item .netifKind y =
      ((L.item .netifKind y.inner).1, ⟨(L.item .netifKind y.inner).2, .item .netifKind :: y.calls⟩) := rfl
  rw [hlogged]
  cases hx : L.item .netifKind y.inner with
  | mk answer x =>
    cases answer with
    | error err => exact ⟨[.netifKind], rfl⟩
    | ok raw =>
      simp only
      cases itemNumber raw with
      | error e => exact ⟨[.netifKind], rfl⟩
      | ok n =>
        simp only
        cases InterfaceKind.ofRaw? n with
        | none => exact ⟨[.netifKind], rfl⟩
        | some kind =>
          simp only
          cases M.saveParameters (.single (.number .netifKind)) { normal.netifKind := n } s with
          | mk answer s' =>
            cases answer with
            | error e => exact ⟨[.netifKind], rfl⟩
            | ok =>
              refine ⟨(LegacyItem.wanted kind).reverse ++ [.netifKind], ?_⟩
              simp [importItems_logged, LegacyItem.wanted]

/-- A source is disconnected if and only if it was connected, once and last. -/
theorem run_logged (s : State σ τ) (x : μ) {answer : Except Error Unit} {s' : State σ τ} {x' : μ}
    (hrun : Legacy.run M L s x = (answer, s', x')) :
    ∃ calls, Legacy.run M L.logged s ⟨x, []⟩ = (answer, s', ⟨x', calls⟩) ∧
      (L.isNeeded x = false → calls = []) ∧
      (L.isNeeded x = true → ∀ err, (L.connect x).1 = .error err → calls = [.connect]) ∧
      (L.isNeeded x = true → (L.connect x).1 = .ok () →
        ∃ asked : List LegacyItem, calls = .disconnect :: (asked.map .item ++ [.connect])) := by
  by_cases hneeded : L.isNeeded x = true
  · have hneeded' : L.logged.isNeeded ⟨x, []⟩ = true := hneeded
    have hlogged : L.logged.connect ⟨x, []⟩ = ((L.connect x).1, ⟨(L.connect x).2, [.connect]⟩) := rfl
    rw [run_needed hneeded] at hrun
    rw [run_needed hneeded', hlogged]
    cases hx : L.connect x with
    | mk answer₁ x₁ =>
      rw [hx] at hrun
      cases answer₁ with
      | error err =>
        cases hrun
        exact ⟨[.connect], rfl, by simp [hneeded], fun _ _ _ => rfl, nofun⟩
      | ok =>
        obtain ⟨asked, hasked⟩ := importAll_logged (M := M) (L := L) s ⟨x₁, [.connect]⟩
        refine ⟨.disconnect :: (asked.map .item ++ [.connect]), ?_, by simp [hneeded], fun _ _ h => (nomatch h),
          fun _ _ => ⟨asked, rfl⟩⟩
        simp only [hasked] at hrun ⊢
        cases hrun
        rfl
  · have hidle := eq_false_of_ne_true hneeded
    have hidle' : L.logged.isNeeded ⟨x, []⟩ = false := hidle
    rw [run_idle hidle] at hrun
    cases hrun
    exact ⟨[], run_idle hidle', fun _ => rfl, fun h => absurd h hneeded, fun h => absurd h hneeded⟩

/-- A source that answers the same however often it is asked, a store that does not fail and a control plane
    that is set up. Without anything to import, nothing is done. A source that cannot be connected is not
    disconnected, and its error is told. Any other is disconnected once, after it was asked. All went well if
    and only if the interface kind can be read and is known, and else nothing is written. Then the kind is
    written, and of the items for it each that is usable; under any other key the store has what it had. Run
    again, the import changes nothing. -/
theorem run_imported (hL : L.Keeps data) (hS : M.store.Keeps contents) (hU : M.store.Unfailing working)
    (hw : working s.store) {r : Modes} (hlock : s.roster.lock = .ok r) (x : μ) :
    ∃ answer t x' calls, Legacy.run M L s x = (answer, { s with store := t }, x') ∧
      Legacy.run M L.logged s ⟨x, []⟩ = (answer, { s with store := t }, ⟨x', calls⟩) ∧
      (L.isNeeded x = false → answer = .ok () ∧ t = s.store ∧ calls = []) ∧
      (L.isNeeded x = true → ∀ err, (data x).connect = .error err →
        answer = .error (.platform err) ∧ t = s.store ∧ calls = [.connect]) ∧
      (L.isNeeded x = true → (data x).connect = .ok () →
        (∃ asked : List LegacyItem, calls = .disconnect :: (asked.map .item ++ [.connect])) ∧
        (answer = .ok () ↔ (data x).kind?.isSome = true) ∧
        ((∃ e, answer = .error e) → t = s.store) ∧
        ∀ n kind, (data x).kind? = some (n, kind) →
          contents t LegacyItem.netifKind.field.key = some (.number n) ∧
          (∀ i ∈ LegacyItem.wanted kind,
            contents t i.field.key = (i.usable? ((data x).item i)).or (contents s.store i.field.key)) ∧
          ∀ key, (∀ i ∈ .netifKind :: LegacyItem.wanted kind, i.field.key ≠ key) →
            contents t key = contents s.store key) ∧
      contents (Legacy.run M L { s with store := t } x').2.1.store = contents t := by
  obtain ⟨answer, t, x', hrun, -, -, hcases⟩ := run_cases (x := x) hL hS hU hw hlock
  obtain ⟨calls, hlogged, hidle, hfailed, hdone⟩ := run_logged s x hrun
  have hagain := run_again hL hS hU hw hlock hrun
  rw [hL.connects] at hfailed hdone
  refine ⟨answer, t, x', calls, hrun, hlogged, fun hneeded => ?_, fun hneeded err herr => ?_,
    fun hneeded hconnect => ⟨hdone hneeded hconnect, ?_⟩, hagain⟩
  · rcases hcases with ⟨-, rfl, rfl, -⟩ | ⟨h, -⟩ | ⟨h, -⟩
    · exact ⟨rfl, rfl, hidle hneeded⟩
    · exact absurd (hneeded.symm.trans h) Bool.false_ne_true
    · exact absurd (hneeded.symm.trans h) Bool.false_ne_true
  · rcases hcases with ⟨h, -⟩ | ⟨-, ⟨err', herr', rfl⟩, rfl⟩ | ⟨-, h, -⟩
    · exact absurd (h.symm.trans hneeded) Bool.false_ne_true
    · cases herr.symm.trans herr'
      exact ⟨rfl, rfl, hfailed hneeded err herr⟩
    · cases h.symm.trans herr
  · rcases hcases with ⟨h, -⟩ | ⟨-, ⟨_, h, -⟩, -⟩ | ⟨-, -, ⟨hnone, ⟨e, rfl⟩, rfl⟩ | ⟨n, kind, hkind, rfl, hc⟩⟩
    · exact absurd (h.symm.trans hneeded) Bool.false_ne_true
    · cases h.symm.trans hconnect
    · rw [hnone]
      exact ⟨⟨nofun, nofun⟩, fun _ => rfl, nofun⟩
    · rw [hkind]
      refine ⟨⟨fun _ => rfl, fun _ => rfl⟩, nofun, fun n' kind' h => ?_⟩
      cases h
      rw [hc]
      refine ⟨?_, fun i hi => LegacyData.imported_key _ (.tail _ hi), fun key hkey => LegacyData.imported_of_ne _ hkey⟩
      rw [LegacyData.imported_key _ (.head _), usable_of_kind hkind]
      rfl

end Legacy

/-! ## Settings in memory -/

namespace Simulation.LegacySettings

def data (x : LegacySettings) : LegacyData := { connect := answer x.connectError, item := x.read }

theorem keeps : source.Keeps data where
  connects _ := rfl
  answers _ _ := rfl
  connecting _ := rfl
  asking _ _ := rfl
  disconnecting _ := rfl

end Simulation.LegacySettings

namespace Camera

open Simulation ControlPlane

/-- An older firmware was on a Wi-Fi network, with a gateway that is no address and a password that cannot be
    read. -/
def older : LegacySettings :=
  { needs := [.wifi]
    texts := (((Table.empty.insert .netifKind "0").insert .wifiSsid "home").insert .staticGateway "gateway").insert
      .proxyPort " 8080"
    broken := [.wifiPassword]
    disconnectError := some (.legacy "fin" "busy") }

theorem older_imported :
    let contents : Shelf → Contents := fun t => t.inner.entries.find?
    let source := LegacySettings.source
    older.data.kind? = some (0, .wifi) ∧
    (LegacyItem.wanted .wifi).filterMap (fun i => (i.usable? (older.data.item i)).map (i.field.key, ·)) =
      [("normal.sta_ssid", .text "home"), ("proxy.port", .number 8080)] ∧
    ∃ answer t x' calls, Legacy.run plane source proxied older = (answer, { proxied with store := t }, x') ∧
      Legacy.run plane source.logged proxied ⟨older, []⟩ =
        (answer, { proxied with store := t }, ⟨x', calls⟩) ∧
      (source.isNeeded older = false → answer = .ok () ∧ t = proxied.store ∧ calls = []) ∧
      (source.isNeeded older = true → ∀ err, older.data.connect = .error err →
        answer = .error (.platform err) ∧ t = proxied.store ∧ calls = [.connect]) ∧
      (source.isNeeded older = true → older.data.connect = .ok () →
        (∃ asked : List LegacyItem, calls = .disconnect :: (asked.map .item ++ [.connect])) ∧
        (answer = .ok () ↔ older.data.kind?.isSome = true) ∧
        ((∃ e, answer = .error e) → t = proxied.store) ∧
        ∀ n kind, older.data.kind? = some (n, kind) →
          contents t LegacyItem.netifKind.field.key = some (.number n) ∧
          (∀ i ∈ LegacyItem.wanted kind,
            contents t i.field.key = (i.usable? (older.data.item i)).or (contents proxied.store i.field.key)) ∧
          ∀ key, (∀ i ∈ .netifKind :: LegacyItem.wanted kind, i.field.key ≠ key) →
            contents t key = contents proxied.store key) ∧
      contents (Legacy.run plane source { proxied with store := t } x').2.1.store = contents t := by
  intro contents source
  have hS : plane.store.Keeps contents := keeps_faultyStore VolatileStore.keeps
  have hU : plane.store.Unfailing _ := unfailing_faultyStore VolatileStore.unfailing
  have hstore : proxied.store = { inner := { entries := Table.empty.insert "proxy.port" (.number 8080) } } := rfl
  have hw : (∀ k, proxied.store.queue k = []) ∧ proxied.store.inner.readOnly = false := by
    rw [hstore]
    exact ⟨fun _ => rfl, rfl⟩
  obtain ⟨r, hlock⟩ := Roster.exists_lock (r := proxied.roster) (by decide +kernel)
  exact ⟨by decide +kernel, by decide +kernel, Legacy.run_imported LegacySettings.keeps hS hU hw hlock older⟩

end Camera

end Connectivity
