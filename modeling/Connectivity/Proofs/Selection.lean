/-
  Connectivity.Proofs.Selection — a validation looks at the fields that its mask selects.
  - `validate_union`, `validate_eq_error`: masks are checked bit by bit. A union is accepted where both its
    parts are, and a rejection names the first selected field that is rejected by itself.
  - `Mask.Agree`: two records are the same as far as a mask selects. To be kept, they get the same answer
    (`validate_save_congr`). A connection also looks at the method where it looks at the address or the
    netmask, so there the mask has to be `settled` (`settled_iff`), as the mask of every start is.
  - `saveParameters_congr`, `unsaved_start`: so what is saved, and how a start goes, depends on the selected
    fields alone.
-/

import Mathlib.Data.List.Find
import Connectivity.Proofs.StoredStarts

namespace Connectivity

/-! ## Masks -/

namespace Field

theorem bit_lt (f : Field) : f.bit < 25 := List.idxOf_lt_length_of_mem f.mem_all

theorem bit_inj {f g : Field} : f.bit = g.bit ↔ f = g :=
  ⟨fun h => (List.idxOf_inj f.mem_all).mp h, congrArg bit⟩

end Field

namespace Mask

variable {m : Mask} {p q : Parameters}

theorem has_union (m n : Mask) (f : Field) : (m.union n).has f = (m.has f || n.has f) :=
  BitVec.getLsbD_or

theorem has_single (f g : Field) : (single f).has g = true ↔ g = f := by
  simp [has, single, BitVec.getLsbD_twoPow, f.bit_lt, Field.bit_inj, eq_comm]

/-- The first selected field of which something is true. -/
theorem find?_fields {bad : Field → Bool} {f : Field} : m.fields.find? bad = some f ↔
    ∃ before after, Field.all = before ++ f :: after ∧ m.has f = true ∧ bad f = true ∧
      ∀ g ∈ before, m.has g = true → bad g = false := by
  simp only [fields, List.find?_filter, List.find?_eq_some_iff_append, Bool.not_eq_true', decide_eq_true_eq,
    decide_eq_false_iff_not]
  constructor
  · rintro ⟨⟨hm, hbad⟩, before, after, hall, hbefore⟩
    exact ⟨before, after, hall, hm, hbad, fun g hg hsel => Bool.eq_false_iff.mpr fun hg' => hbefore g hg ⟨hsel, hg'⟩⟩
  · rintro ⟨before, after, hall, hm, hbad, hbefore⟩
    refine ⟨⟨hm, hbad⟩, before, after, hall, fun g hg hboth => ?_⟩
    obtain ⟨hsel, hg'⟩ := hboth
    rw [hbefore g hg hsel] at hg'
    cases hg'

/-- The records are the same as far as the mask selects. -/
def Agree (m : Mask) (p q : Parameters) : Prop := ∀ f, m.has f = true → f.read p = f.read q

instance : Decidable (m.Agree p q) :=
  decidable_of_iff (∀ f ∈ Field.all, m.has f = true → f.read p = f.read q)
    ⟨fun h f => h f f.mem_all, fun h f _ => h f⟩

/-- Where the mask selects what a static connection requires, it also selects the method. -/
def settled (m : Mask) : Bool :=
  m.has (.number .ipMethod) || !(m.has (.text .normalAddress) || m.has (.text .normalNetmask))

theorem settled_needed (mode : Mode) (kind : InterfaceKind) : (needed mode kind).settled = true := by
  cases mode <;> cases kind <;> decide

/-- The fields that a start of a mode with these parameters depends on. Where they ask for a kind of interface
    that there is not, the kind is one of them. -/
def ofStart (mode : Mode) (p : Parameters) : Mask :=
  .needed mode ((InterfaceKind.ofRaw? p.normal.netifKind).getD .ethernet)

theorem Agree.netifKind {kind : InterfaceKind} (h : (needed .normal kind).Agree p q) :
    p.normal.netifKind = q.normal.netifKind :=
  NumberField.get_of_read (h (.number .netifKind) (by cases kind <;> decide))

end Mask

section
variable {m m₁ m₂ : Mask} {p q : Parameters} {purpose : Purpose} {e : Error}

/-! ## One mask and another -/

theorem validate_union : validate (m₁.union m₂) p purpose = .ok () ↔
    validate m₁ p purpose = .ok () ∧ validate m₂ p purpose = .ok () := by
  simp only [validate_ok_iff, Mask.has_union, Bool.or_eq_true]
  exact ⟨fun h => ⟨fun f hf => h f (.inl hf), fun f hf => h f (.inr hf)⟩, fun h f hf => hf.elim (h.1 f) (h.2 f)⟩

theorem validate_single {f : Field} : validate (.single f) p purpose = .ok () ↔ f.accepts purpose p = true := by
  simp only [validate_ok_iff, Mask.has_single, forall_eq]

theorem validate_eq_error_iff_find : validate m p purpose = .error e ↔
    ∃ f, m.fields.find? (fun f => !f.accepts purpose p) = some f ∧ e = .rejected f purpose := by
  unfold validate
  cases m.fields.find? (fun f => !f.accepts purpose p) with
  | none => simp
  | some f => simp [eq_comm]

/-- A rejection names the first selected field that is rejected by itself. -/
theorem validate_eq_error : validate m p purpose = .error e ↔
    ∃ before f after, Field.all = before ++ f :: after ∧ m.has f = true ∧ validate (.single f) p purpose ≠ .ok () ∧
      (∀ g ∈ before, m.has g = true → validate (.single g) p purpose = .ok ()) ∧ e = .rejected f purpose := by
  simp only [validate_eq_error_iff_find, Mask.find?_fields, Bool.not_eq_true', Bool.not_eq_false', ne_eq,
    validate_single, Bool.not_eq_true]
  constructor
  · rintro ⟨f, ⟨before, after, hall, hm, hf, hbefore⟩, he⟩
    exact ⟨before, f, after, hall, hm, hf, hbefore, he⟩
  · rintro ⟨before, f, after, hall, hm, hf, hbefore, he⟩
    exact ⟨f, ⟨before, after, hall, hm, hf, hbefore⟩, he⟩

/-! ## One record and another -/

theorem validate_congr (h : ∀ f, m.has f = true → f.accepts purpose p = f.accepts purpose q) :
    validate m p purpose = validate m q purpose := by
  have hfind : m.fields.find? (fun f => !f.accepts purpose p) = m.fields.find? (fun f => !f.accepts purpose q) :=
    List.find?_congr fun f hf => by rw [h f ((m.mem_fields f).mp hf)]
  unfold validate
  rw [hfind]

theorem validate_save_congr (h : m.Agree p q) : validate m p .save = validate m q .save :=
  validate_congr fun f hf => Field.accepts_save (h f hf)

/-- The rule of a connection looks at its field and, for what a static connection requires, at the method. -/
theorem Field.accepts_connect {f : Field} (h : f.read p = f.read q)
    (hmethod : f = .text .normalAddress ∨ f = .text .normalNetmask → p.normal.ipMethod = q.normal.ipMethod) :
    f.accepts .connect p = f.accepts .connect q := by
  cases f with
  | text f =>
    have hget : f.get p = f.get q := f.get_of_read h
    cases f with
    | normalAddress | normalNetmask =>
      simp only [TextField.get] at hget
      simp [accepts, Parameters.isStatic, hget, hmethod]
    | _ =>
      simp only [TextField.get] at hget
      simp [accepts, hget]
  | number f =>
    have hget : f.get p = f.get q := f.get_of_read h
    cases f <;> simp only [NumberField.get] at hget <;> simp [accepts, hget]

theorem validate_connect_congr (hm : m.settled = true) (h : m.Agree p q) :
    validate m p .connect = validate m q .connect := by
  refine validate_congr fun f hf => Field.accepts_connect (h f hf) fun hstatic => ?_
  have hmethod : m.has (.number .ipMethod) = true := by
    rcases hstatic with rfl | rfl <;> simpa [Mask.settled, hf] using hm
  exact NumberField.get_of_read (h _ hmethod)

/-- The networks of the camera, of which the first is to be joined with an address that is not given. -/
def Camera.addressless : Parameters := { networks with normal.ipMethod := 1 }

/-- Without the method among its fields, a mask that has the address or the netmask does not tell whether they
    may be left empty. -/
theorem Mask.settled_iff :
    m.settled = true ↔ ∀ p q, m.Agree p q → validate m p .connect = validate m q .connect := by
  refine ⟨fun hm p q => validate_connect_congr hm, fun h => ?_⟩
  by_contra hm
  simp only [settled, Bool.or_eq_true, Bool.not_eq_true', not_or, Bool.not_eq_true, Bool.not_eq_false] at hm
  obtain ⟨hmethod, hstatic⟩ := hm
  have hagree : m.Agree Camera.networks Camera.addressless := by
    intro f hf
    have hne : f ≠ .number .ipMethod := by
      rintro rfl
      rw [hmethod] at hf
      cases hf
    rcases f with f | f <;> cases f <;> first | rfl | exact absurd rfl hne
  have hdhcp : validate m Camera.networks .connect = .ok () := by
    have hall : ∀ f ∈ Field.all, f.accepts .connect Camera.networks = true := by decide +kernel
    exact validate_ok_iff.mpr fun f _ => hall f f.mem_all
  have haccepted := validate_ok_iff.mp ((h _ _ hagree).symm.trans hdhcp)
  rcases hstatic with hf | hf
  · have haddress : (Field.text .normalAddress).accepts .connect Camera.addressless = false := by decide +kernel
    exact Bool.false_ne_true (haddress.symm.trans (haccepted _ hf))
  · have hnetmask : (Field.text .normalNetmask).accepts .connect Camera.addressless = false := by decide +kernel
    exact Bool.false_ne_true (hnetmask.symm.trans (haccepted _ hf))

/-! ## What is stored and set up -/

theorem Field.encode_congr {f : Field} (h : f.read p = f.read q) : f.encode p = f.encode q := by
  cases f with
  | text f => simp only [encode, h, f.get_of_read h]
  | number f => simp only [encode, h]

theorem encodeAll_congr {fs : List Field} (h : ∀ f ∈ fs, f.read p = f.read q) : encodeAll p fs = encodeAll q fs := by
  induction fs with
  | nil => rfl
  | cons f fs ih =>
    simp only [encodeAll, Field.encode_congr (h f (.head fs)), ih fun g hg => h g (.tail f hg)]

theorem encode_congr (h : m.Agree p q) : encode m p = encode m q :=
  encodeAll_congr fun f hf => h f ((m.mem_fields f).mp hf)

theorem interfaceSetup_congr {mode : Mode} {kind : InterfaceKind} (h : (Mask.needed mode kind).Agree p q) :
    interfaceSetup mode kind p = interfaceSetup mode kind q := by
  have ht (f : TextField) (hf : (Mask.needed mode kind).has (.text f) = true) : f.get p = f.get q :=
    f.get_of_read (h _ hf)
  have hn (f : NumberField) (hf : (Mask.needed mode kind).has (.number f) = true) : f.get p = f.get q :=
    f.get_of_read (h _ hf)
  cases mode with
  | normal =>
    cases kind with
    | ethernet => rfl
    | wifi =>
      have hstation : p.normal.station = q.normal.station :=
        StationSetting.ext (ht .stationSsid (by decide)) (ht .stationPassword (by decide))
          (hn .stationEncryption (by decide))
      simp only [interfaceSetup, hstation]
  | accessPoint =>
    have hap : p.accessPoint.ap = q.accessPoint.ap :=
      ApSetting.ext (ht .apSsid (by cases kind <;> decide)) (ht .apPassword (by cases kind <;> decide))
        (hn .apEncryption (by cases kind <;> decide)) (hn .apChannel (by cases kind <;> decide))
    simp only [interfaceSetup, hap]

end

namespace ControlPlane

variable {σ τ α : Type} {M : ControlPlane σ τ} {s : State σ τ} {p q : Parameters}

/-! ## Saves -/

theorem saveParameters_congr {mask : Mask} (h : mask.Agree p q) :
    M.saveParameters mask p s = M.saveParameters mask q s := by
  simp only [saveParameters, saveFields, validate_save_congr h, encode_congr h]

/-! ## Starts -/

theorem checkedKind_congr {mode : Mode} (h : (Mask.ofStart mode p).Agree p q) :
    checkedKind mode p = checkedKind mode q := by
  cases mode with
  | normal =>
    simp only [checkedKind, ← h.netifKind]
    cases hk : InterfaceKind.ofRaw? p.normal.netifKind with
    | none => rfl
    | some kind =>
      simp only [Mask.ofStart, hk, Option.getD_some] at h
      simp only [validate_connect_congr (Mask.settled_needed _ _) h]
  | accessPoint =>
    simp only [checkedKind, validate_connect_congr (Mask.settled_needed .accessPoint .wifi) h]

/-- The fields of a start are those of the kind of interface that it was checked for. -/
theorem ofStart_of_checkedKind {mode : Mode} {kind : InterfaceKind} (hk : checkedKind mode p = .ok kind) :
    Mask.ofStart mode p = .needed mode kind := by
  cases mode with
  | normal =>
    unfold checkedKind at hk
    cases hr : InterfaceKind.ofRaw? p.normal.netifKind with
    | none =>
      simp only [hr] at hk
      cases hk
    | some kind' =>
      simp only [hr] at hk
      simp only [Mask.ofStart, hr, Option.getD_some]
      cases hv : validate (.needed .normal kind') p .connect with
      | error err =>
        rw [hv] at hk
        cases hk
      | ok =>
        rw [hv] at hk
        cases hk
        rfl
  | accessPoint => rfl

end ControlPlane

/-! ## Starts but for what they keep -/

/-- A mode but for the record of its last start. -/
def ModeState.unsaved (m : ModeState) : ModeState := { m with saved := none }

theorem ModeState.refresh_unsaved (m : ModeState) : m.unsaved.refresh = (m.refresh.1, m.refresh.2.unsaved) := by
  have hstanding : m.unsaved.standing = m.standing := rfl
  unfold refresh
  rw [hstanding]
  by_cases h : m.standing = m.told
  · rw [if_pos h, if_pos (show m.standing = m.unsaved.told from h)]
  · rw [if_neg h, if_neg (show ¬ m.standing = m.unsaved.told from h)]
    rfl

def Modes.unsaved (r : Modes) : Modes :=
  { r with normal := r.normal.unsaved, accessPoint := r.accessPoint.unsaved }

namespace Modes

theorem get_unsaved (r : Modes) (mode : Mode) : r.unsaved.get mode = (r.get mode).unsaved := by
  cases mode <;> rfl

theorem unsaved_set (r : Modes) (mode : Mode) (m : ModeState) :
    (r.set mode m).unsaved = r.unsaved.set mode m.unsaved := by
  cases mode <;> rfl

end Modes

namespace Roster

def unsaved (r : Roster) : Roster := { r with modes := r.modes.map Modes.unsaved }

theorem unsaved_setMode (r : Roster) (mode : Mode) (m : ModeState) :
    (r.setMode mode m).unsaved = r.unsaved.setMode mode m.unsaved := by
  simp only [unsaved, setMode, Option.map_map, Function.comp_def, Modes.unsaved_set]

theorem exit_modes (g : Guard) (r : Roster) (modes : Option Modes) :
    ({ r with modes } : Roster).exit g = (r.exit g).map fun r => { r with modes } := by
  unfold exit
  simp only
  (repeat' split) <;> rfl

theorem leave_modes (g : Guard) (r : Roster) (modes : Option Modes) :
    ({ r with modes } : Roster).leave g = { r.leave g with modes } := by
  unfold leave
  rw [exit_modes]
  cases r.exit g <;> rfl

theorem unsaved_leave (g : Guard) (r : Roster) : (r.leave g).unsaved = r.unsaved.leave g := by
  have hleave : r.unsaved.leave g = { r.leave g with modes := r.modes.map Modes.unsaved } := leave_modes g r _
  rw [hleave, unsaved, modes_leave]

end Roster

namespace ControlPlane

variable {σ τ α : Type} {M : ControlPlane σ τ} {s : State σ τ} {p q : Parameters}

namespace State

/-- The state but for the records of the last starts. -/
def unsaved (s : State σ τ) : State σ τ := { s with roster := s.roster.unsaved }

theorem unsaved_update (s : State σ τ) (mode : Mode) (m : ModeState) (env : Env σ) :
    (s.update mode (m, env)).unsaved = s.unsaved.update mode (m.unsaved, env) := by
  simp only [unsaved, update, Roster.unsaved_setMode]

theorem unsaved_tell (s : State σ τ) (mode : Mode) : (s.tell mode).unsaved = s.unsaved.tell mode := by
  have hmode : s.unsaved.mode? mode = (s.mode? mode).map ModeState.unsaved := by
    simp only [mode?, unsaved, Roster.unsaved, Option.map_map, Function.comp_def, Modes.get_unsaved]
  unfold tell
  rw [hmode]
  cases s.mode? mode with
  | none => rfl
  | some m => simp only [Option.map_some, ModeState.refresh_unsaved, unsaved, Roster.unsaved_setMode]

end State

/-- The calls answer the same, and leave the same but for the records of the last starts. -/
def Twins (x y : Except Error α × State σ τ) : Prop := x.1 = y.1 ∧ x.2.unsaved = y.2.unsaved

theorem twins_withMode {h : Handle} {isControl : Bool} {run run' : ModeState → Operation σ τ α}
    (hrun : ∀ mode r roster, s.roster.modeOf h = .ok mode → s.roster.modes = some r →
      Twins (run (r.get mode) { s with roster }) (run' (r.get mode) { s with roster })) :
    Twins (withMode h isControl run s) (withMode h isControl run' s) := by
  have hmodes := Roster.modes_enter h isControl s.roster
  unfold withMode withHandle
  cases hx : s.roster.enter h isControl with
  | mk answer roster =>
    rw [hx] at hmodes
    cases answer with
    | error err => exact ⟨rfl, rfl⟩
    | ok g =>
      cases hl : roster.lock with
      | error err =>
        simp only [hl]
        exact ⟨rfl, rfl⟩
      | ok r =>
        obtain ⟨hanswer, hstate⟩ := hrun g.mode r roster (Roster.modeOf_enter hx) (hmodes ▸ (Roster.lock_eq_ok hl).2)
        simp only [hl]
        refine ⟨hanswer, ?_⟩
        simp only [State.unsaved, State.mk.injEq] at hstate
        obtain ⟨hroster, henv, hstore, hnotices⟩ := hstate
        simp only [State.unsaved, Roster.unsaved_leave, hroster, henv, hstore, hnotices]

theorem twins_bringUp {m : ModeState} {kind : InterfaceKind}
    (h : interfaceSetup m.mode kind p = interfaceSetup m.mode kind q) (s : State σ τ) :
    Twins (M.bringUp m kind p s) (M.bringUp m kind q s) := by
  have hstart : Link.start M.platform kind p m.cleared s.env = Link.start M.platform kind q m.cleared s.env := by
    have hsetup : interfaceSetup m.cleared.mode kind p = interfaceSetup m.cleared.mode kind q := h
    simp only [Link.start, hsetup]
  unfold bringUp
  rw [hstart]
  split
  · exact ⟨rfl, rfl⟩
  · refine ⟨rfl, ?_⟩
    simp only [State.unsaved_tell, State.unsaved_update]
    rfl

/-- Starts with records that agree on the fields of the start go the same way. -/
theorem twins_start {h : Handle} (hl : ∀ r, s.roster.modes = some r → r.Labelled)
    (hpq : ∀ mode, s.roster.modeOf h = .ok mode → (Mask.ofStart mode p).Agree p q) :
    Twins (M.start h (.given p) s) (M.start h (.given q) s) := by
  refine twins_withMode fun mode r roster hm hr => ?_
  have hagree := hpq mode hm
  have hlabel : (r.get mode).mode = mode := hl r hr mode
  split
  · exact ⟨rfl, rfl⟩
  · have hresolve (p : Parameters) :
        M.resolve (r.get mode) (.given p) { s with roster } = (.ok p, { s with roster }) := rfl
    rw [hresolve p, hresolve q]
    simp only [hlabel, ← checkedKind_congr hagree]
    cases hk : checkedKind mode p with
    | error err => exact ⟨rfl, rfl⟩
    | ok kind =>
      rw [ofStart_of_checkedKind hk] at hagree
      exact twins_bringUp (by rw [hlabel, interfaceSetup_congr hagree]) _

end ControlPlane

open ControlPlane in
/-- A validation depends on what the mask selects, and on nothing else. A union of masks is accepted where both
    are, and a rejection names the first selected field that is rejected by itself. Records that agree on
    the selected fields get the same answer if they are to be kept; and if they are to be connected, exactly
    for the masks that have the method wherever they have the address or the netmask, as the mask of every start
    does. So what stands in the other fields never rejects or admits a save or a start: saves of such records
    are one and the same, and starts with them differ only in the record that is kept of them. -/
theorem validation_selects :
    (∀ (m₁ m₂ : Mask) (p : Parameters) (purpose : Purpose), validate (m₁.union m₂) p purpose = .ok () ↔
      validate m₁ p purpose = .ok () ∧ validate m₂ p purpose = .ok ()) ∧
    (∀ (m : Mask) (p : Parameters) (purpose : Purpose) (e : Error), validate m p purpose = .error e ↔
      ∃ before f after, Field.all = before ++ f :: after ∧ m.has f = true ∧ validate (.single f) p purpose ≠ .ok () ∧
        (∀ g ∈ before, m.has g = true → validate (.single g) p purpose = .ok ()) ∧ e = .rejected f purpose) ∧
    (∀ (m : Mask) (p q : Parameters), m.Agree p q → validate m p .save = validate m q .save) ∧
    (∀ m : Mask, (m.has (.number .ipMethod) = true ∨
        m.has (.text .normalAddress) = false ∧ m.has (.text .normalNetmask) = false) ↔
      ∀ p q, m.Agree p q → validate m p .connect = validate m q .connect) ∧
    (∀ (mode : Mode) (kind : InterfaceKind) (p q : Parameters), (Mask.needed mode kind).Agree p q →
      validate (.needed mode kind) p .connect = validate (.needed mode kind) q .connect) ∧
    (∀ {σ τ : Type} (M : ControlPlane σ τ) (s : State σ τ) (m : Mask) (p q : Parameters), m.Agree p q →
      M.saveParameters m p s = M.saveParameters m q s) ∧
    ∀ {σ τ : Type} (M : ControlPlane σ τ) (env : Env σ) (store : τ) (s : State σ τ),
      M.Reach (fun _ _ => True) (M.initial env store) s → ∀ (h : Handle) (p q : Parameters),
        (∀ mode, s.roster.modeOf h = .ok mode → (Mask.ofStart mode p).Agree p q) →
          (M.start h (.given p) s).1 = (M.start h (.given q) s).1 ∧
          (M.start h (.given p) s).2.unsaved = (M.start h (.given q) s).2.unsaved :=
  ⟨fun _ _ _ _ => validate_union, fun _ _ _ _ => validate_eq_error, fun _ _ _ => validate_save_congr,
    fun m => by simpa [Mask.settled] using m.settled_iff,
    fun mode kind _ _ => validate_connect_congr (Mask.settled_needed mode kind),
    fun _ _ _ _ _ => saveParameters_congr, fun _ _ _ _ hs _ _ _ => twins_start (hs.labelled rfl)⟩

namespace Camera

open Simulation ControlPlane

/-- The networks of the camera, beside what no network or proxy can be. -/
def garbled : Parameters := { home with accessPoint.ap.channel := 99, proxy.tcpPort := -1 }

/-- To join the network, the camera looks neither at the channel nor at the port, which it would reject. -/
theorem garbled_selects :
    let s := plane.run switchOn off
    Mask.normal.Agree networks garbled ∧ validate .normal networks .connect = .ok () ∧
    validate (Mask.proxy.union .accessPoint) garbled .save = .error (.rejected (.number .apChannel) .save) ∧
    validate .normal networks .connect = validate .normal garbled .connect ∧
    plane.saveParameters .normal networks s = plane.saveParameters .normal garbled s ∧
    (plane.start normal (.given networks) s).1 = .ok () ∧
    (plane.start normal (.given networks) s).1 = (plane.start normal (.given garbled) s).1 ∧
    (plane.start normal (.given networks) s).2.unsaved = (plane.start normal (.given garbled) s).2.unsaved := by
  intro s
  obtain ⟨-, hreject, -, -, hconnect, hsave, hstart⟩ := validation_selects
  have hagree : Mask.normal.Agree networks garbled := by decide +kernel
  have hmode : s.roster.modeOf normal = .ok .normal := by decide +kernel
  have hchannel : validate (Mask.proxy.union .accessPoint) garbled .save =
      .error (.rejected (.number .apChannel) .save) := by
    refine (hreject _ _ _ _).mpr ⟨Field.all.take 20, .number .apChannel, Field.all.drop 21, rfl, ?_, ?_, ?_, rfl⟩ <;>
      decide +kernel
  refine ⟨hagree, by decide +kernel, hchannel, hconnect .normal .wifi networks garbled hagree,
    hsave plane s .normal networks garbled hagree, by decide +kernel, ?_⟩
  exact hstart plane _ _ s (reach_any switchOn off) normal networks garbled fun mode hm => by
    obtain rfl : mode = .normal := Except.ok.inj (hm.symm.trans hmode)
    exact hagree

end Camera

end Connectivity
