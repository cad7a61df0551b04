/-
  Connectivity.Proofs.Fields — the twenty-five fields make up the parameters, each by itself.
  - `key_injective`: no two fields have the same name in a store. `mem_fields`: a mask selects the fields
    whose bits it has.
  - `read_write?`: a field that is written reads as what was written, and the others read as before.
  - `Parameters.ext_read`: parameters of which every field reads the same are the same; and so it is with a
    section and its fields (`Section.ext_read`).
-/

import Mathlib.Data.List.Nodup
import Connectivity.Parameter.Stored

namespace Connectivity

/-! ## Fields and masks -/

namespace Field

theorem mem_all (f : Field) : f ∈ all := by
  rcases f with f | f <;> cases f <;> decide

theorem key_injective : Function.Injective key := by
  have hnodup : (all.map key).Nodup := by decide +kernel
  intro f g h
  exact List.inj_on_of_nodup_map hnodup (mem_all f) (mem_all g) h

/-- The value has the type of the field. -/
def ofType : Field → StoredValue → Bool
  | .text _, .text _ => true
  | .number _, .number _ => true
  | _, _ => false

@[simp] theorem ofType_read (f : Field) (p : Parameters) : f.ofType (f.read p) = true := by
  cases f <;> rfl

@[simp] theorem ofType_unset (f : Field) : f.ofType f.unset = true := by
  cases f <;> rfl

/-- The section that a field belongs to. -/
def sectionName : Field → SectionName
  | .text .apAddress => .accessPoint
  | .text .apNetmask => .accessPoint
  | .text .apGateway => .accessPoint
  | .text .apDns => .accessPoint
  | .text .apSsid => .accessPoint
  | .text .apPassword => .accessPoint
  | .number .apEncryption => .accessPoint
  | .number .apChannel => .accessPoint
  | .text .proxyUrl => .proxy
  | .text .proxyUsername => .proxy
  | .text .proxyPassword => .proxy
  | .number .proxyPort => .proxy
  | _ => .normal

end Field

theorem Mask.mem_fields (m : Mask) (f : Field) : f ∈ m.fields ↔ m.has f = true := by
  rw [fields, List.mem_filter, and_iff_right f.mem_all]

theorem SectionName.has_mask (name : SectionName) (f : Field) :
    name.mask.has f = true ↔ f.sectionName = name := by
  have h : ∀ f ∈ Field.all, ∀ name ∈ [SectionName.normal, .accessPoint, .proxy],
      (name.mask.has f = true ↔ f.sectionName = name) := by decide +kernel
  exact h f f.mem_all name (by cases name <;> decide)

/-! ## Fields that are written -/

theorem TextField.get_set (p : Parameters) (s : String) (f g : TextField) :
    g.get (f.set p s) = if f = g then s else g.get p := by
  cases f <;> cases g <;> rfl

theorem NumberField.get_set (p : Parameters) (n : Int) (f g : NumberField) :
    g.get (f.set p n) = if f = g then n else g.get p := by
  cases f <;> cases g <;> rfl

theorem TextField.number_get_set (p : Parameters) (s : String) (f : TextField) (g : NumberField) :
    g.get (f.set p s) = g.get p := by
  cases f <;> cases g <;> rfl

theorem NumberField.text_get_set (p : Parameters) (n : Int) (f : NumberField) (g : TextField) :
    g.get (f.set p n) = g.get p := by
  cases f <;> cases g <;> rfl

namespace Field

theorem write?_isSome (f : Field) (p : Parameters) (v : StoredValue) : (f.write? p v).isSome = f.ofType v := by
  cases f <;> cases v <;> rfl

/-- A value of a field's type is written to the field and to no other. -/
theorem read_write? {f : Field} {p p' : Parameters} {v : StoredValue} (h : f.write? p v = some p') (g : Field) :
    g.read p' = if f = g then v else g.read p := by
  cases f with
  | text f =>
    cases v with
    | number => cases h
    | text s =>
      cases h
      cases g with
      | text g =>
        simp only [read, TextField.get_set, Field.text.injEq]
        split <;> rfl
      | number g => simp [read, TextField.number_get_set]
  | number f =>
    cases v with
    | text => cases h
    | number n =>
      cases h
      cases g with
      | text g => simp [read, NumberField.text_get_set]
      | number g =>
        simp only [read, NumberField.get_set, Field.number.injEq]
        split <;> rfl

end Field

/-! ## Parameters are their fields -/

theorem TextField.get_of_read {f : TextField} {p q : Parameters} (h : Field.read p (.text f) = Field.read q (.text f)) :
    f.get p = f.get q :=
  StoredValue.text.inj h

theorem NumberField.get_of_read {f : NumberField} {p q : Parameters}
    (h : Field.read p (.number f) = Field.read q (.number f)) : f.get p = f.get q :=
  StoredValue.number.inj h

attribute [ext] AddressTexts StationSetting ApSetting NormalSection AccessPointSection ProxySection Parameters

/-- A section is the fields that belong to it. -/
theorem Section.ext_read {p q : Parameters} {name : SectionName}
    (h : ∀ f : Field, f.sectionName = name → f.read p = f.read q) :
    Section.ofParameters p name = Section.ofParameters q name := by
  have ht (f : TextField) (hf : (Field.text f).sectionName = name) : f.get p = f.get q := f.get_of_read (h _ hf)
  have hn (f : NumberField) (hf : (Field.number f).sectionName = name) : f.get p = f.get q := f.get_of_read (h _ hf)
  cases name with
  | normal =>
    have hip : p.normal.ip = q.normal.ip :=
      AddressTexts.ext (ht .normalAddress rfl) (ht .normalNetmask rfl) (ht .normalGateway rfl) (ht .normalDns rfl)
    have hipv6 : p.normal.ipv6 = q.normal.ipv6 :=
      AddressTexts.ext (ht .normalAddress6 rfl) (ht .normalNetmask6 rfl) (ht .normalGateway6 rfl) (ht .normalDns6 rfl)
    have hstation : p.normal.station = q.normal.station :=
      StationSetting.ext (ht .stationSsid rfl) (ht .stationPassword rfl) (hn .stationEncryption rfl)
    exact congrArg Section.normal (NormalSection.ext hip hipv6 (hn .ipMethod rfl) (hn .netifKind rfl) hstation)
  | accessPoint =>
    have hip : p.accessPoint.ip = q.accessPoint.ip :=
      AddressTexts.ext (ht .apAddress rfl) (ht .apNetmask rfl) (ht .apGateway rfl) (ht .apDns rfl)
    have hap : p.accessPoint.ap = q.accessPoint.ap :=
      ApSetting.ext (ht .apSsid rfl) (ht .apPassword rfl) (hn .apEncryption rfl) (hn .apChannel rfl)
    exact congrArg Section.accessPoint (AccessPointSection.ext hip hap)
  | proxy =>
    have hproxy : p.proxy = q.proxy :=
      ProxySection.ext (ht .proxyUrl rfl) (hn .proxyPort rfl) (ht .proxyUsername rfl) (ht .proxyPassword rfl)
    exact congrArg Section.proxy hproxy

theorem Parameters.ext_read {p q : Parameters} (h : ∀ f : Field, f.read p = f.read q) : p = q := by
  have hsection (name : SectionName) : Section.ofParameters p name = Section.ofParameters q name :=
    Section.ext_read fun f _ => h f
  exact Parameters.ext (Section.normal.inj (hsection .normal)) (Section.accessPoint.inj (hsection .accessPoint))
    (Section.proxy.inj (hsection .proxy))

/-- A section alone keeps its fields, and the others are not set. -/
theorem Section.read_toParameters (p : Parameters) (name : SectionName) (f : Field) :
    f.read (Section.ofParameters p name).toParameters = if f.sectionName = name then f.read p else f.read {} := by
  rcases f with f | f <;> cases f <;> cases name <;> rfl

end Connectivity
