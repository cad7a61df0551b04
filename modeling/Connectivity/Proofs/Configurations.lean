/-
  Connectivity.Proofs.Configurations — parameters that were checked configure an interface and its address.
  - `staticAddressing_eq_ok_iff`: the texts of a section configure the address that they spell, and no other.
  - `staticAddressing_of_needed`: parameters that are valid for a connection whose address is among them spell
    one.
  - `setStatic_eq_none`: so that it is the platform, where a link that is up gets no static address.
  - `validated_configures`: no start and no link fails over parameters that were checked.
-/

import Connectivity.Proofs.DottedText
import Connectivity.Proofs.FailedStarts

namespace Connectivity

open Net (Ipv4)

/-- The texts that a mode's static address is taken from. -/
def Parameters.addressTexts (p : Parameters) : Mode → AddressTexts
  | .normal => p.normal.ip
  | .accessPoint => p.accessPoint.ip

/-- Whether a mode has its address from the parameters, as an access point always has. -/
def Parameters.fixesAddress (p : Parameters) : Mode → Bool
  | .normal => p.isStatic
  | .accessPoint => true

/-- The texts are the dotted texts of the address and its netmask; those of the gateway and the DNS server may
    be empty instead, which stands for none. -/
structure AddressTexts.Spells (s : AddressTexts) (a : Addressing) : Prop where
  address : a.address.text = s.address
  netmask : a.netmask.text = s.netmask
  gateway : if s.gateway.isEmpty then a.gateway = .unspecified else a.gateway.text = s.gateway
  dns : if s.dns.isEmpty then a.dns = .unspecified else a.dns.text = s.dns

/-! ## Addresses -/

theorem requiredAddress_eq_ok_iff {part : AddressPart} {s : String} {x : Ipv4} :
    requiredAddress part s = .ok x ↔ x.text = s := by
  rw [← Ipv4.ofString?_eq_some_iff, requiredAddress]
  split <;> rename_i hx <;> simp [hx]

theorem optionalAddress_eq_ok_iff {part : AddressPart} {s : String} {x : Ipv4} :
    optionalAddress part s = .ok x ↔ if s.isEmpty then x = .unspecified else x.text = s := by
  rw [optionalAddress]
  split
  · rw [Except.ok.injEq, eq_comm]
  · exact requiredAddress_eq_ok_iff

theorem staticAddressing_eq_ok_iff {s : AddressTexts} {a : Addressing} : staticAddressing s = .ok a ↔ s.Spells a := by
  constructor
  · intro h
    unfold staticAddressing at h
    cases ha : requiredAddress .address s.address with
    | error => rw [ha] at h; cases h
    | ok address =>
      cases hn : requiredAddress .netmask s.netmask with
      | error => rw [ha, hn] at h; cases h
      | ok netmask =>
        cases hg : optionalAddress .gateway s.gateway with
        | error => rw [ha, hn, hg] at h; cases h
        | ok gateway =>
          cases hd : optionalAddress .dns s.dns with
          | error => rw [ha, hn, hg, hd] at h; cases h
          | ok dns =>
            rw [ha, hn, hg, hd] at h
            cases h
            exact ⟨requiredAddress_eq_ok_iff.mp ha, requiredAddress_eq_ok_iff.mp hn,
              optionalAddress_eq_ok_iff.mp hg, optionalAddress_eq_ok_iff.mp hd⟩
  · intro ⟨ha, hn, hg, hd⟩
    simp only [staticAddressing, requiredAddress_eq_ok_iff.mpr ha, requiredAddress_eq_ok_iff.mpr hn,
      optionalAddress_eq_ok_iff.mpr hg, optionalAddress_eq_ok_iff.mpr hd]
    rfl

theorem staticAddressing_of_needed {mode : Mode} {kind : InterfaceKind} {p : Parameters}
    (h : validate (.needed mode kind) p .connect = .ok ()) (hfixed : p.fixesAddress mode = true) :
    ∃ a, staticAddressing (p.addressTexts mode) = .ok a := by
  cases mode with
  | accessPoint => exact staticAddressing_of_valid h
  | normal =>
    have haccepts := validate_ok_iff.mp h
    have hstatic : p.isStatic = true := hfixed
    have ha := haccepts (.text .normalAddress) (by cases kind <;> decide)
    have hn := haccepts (.text .normalNetmask) (by cases kind <;> decide)
    simp only [Field.accepts, hstatic, decide_true, Bool.and_self] at ha hn
    exact staticAddressing_of_rules ha hn (haccepts (.text .normalGateway) (by cases kind <;> decide))
      (haccepts (.text .normalDns) (by cases kind <;> decide))

namespace Link

variable {σ : Type} {P : Platform σ} {e : Env σ} {name : String} {texts : AddressTexts} {a : Addressing}

/-- An address that is spelled is not set only if the platform refuses the method or the address. -/
theorem setStatic_eq_none (ha : staticAddressing texts = .ok a) (h : (setStatic P name texts e).1 = none) :
    (∃ err e₁, e.perform (P.setMethod name .static) = (.error err, e₁)) ∨
      ∃ err e₁ e₂, e.perform (P.setMethod name .static) = (.ok (), e₁) ∧
        e₁.perform (P.setAddress name a) = (.error err, e₂) := by
  rcases setStatic_cases P name ha e with ⟨err, e₁, hm, -⟩ | ⟨e₁, hm, ⟨err, e₂, hs, -⟩ | ⟨e₂, -, hx⟩⟩
  · exact .inl ⟨err, e₁, hm⟩
  · exact .inr ⟨err, e₁, e₂, hm, hs⟩
  · cases (congrArg Prod.fst hx).symm.trans h

end Link

namespace ControlPlane

variable {σ τ : Type} {mode : Mode} {kind : InterfaceKind} {p : Parameters}

/-- Parameters that are valid for a connection of a mode over a kind of interface configure it: the interface
    can be set up, with the name, password, security and channel of the mode's section and with nothing else, and
    where the mode's address is one of them, its texts spell an address, which is the one that is configured. So
    once they were checked, a start answers what the platform answers to the interface's setup and start, unless
    the mode has no interface of the kind; and an interface whose link is up gets its static address, unless the
    platform refuses the method or the address. -/
theorem validated_configures (M : ControlPlane σ τ) (hv : validate (.needed mode kind) p .connect = .ok ()) :
    (∃ setup, interfaceSetup mode kind p = .ok setup ∧ p.Configures mode kind setup ∧
      (∀ setup', p.Configures mode kind setup' → setup' = setup) ∧
      ∀ (m : ModeState) (s : State σ τ), m.mode = mode →
        (m.interface? kind = none ∧ (M.bringUp m kind p s).1 = .error (.noInterfaceOfKind mode kind)) ∨
        ∃ i, m.interface? kind = some i ∧
          (M.bringUp m kind p s).1 = (Link.bringUp M.platform i.name setup s.env).1.mapError .platform) ∧
    (p.fixesAddress mode = true →
      ∃ a, staticAddressing (p.addressTexts mode) = .ok a ∧ (p.addressTexts mode).Spells a ∧
        (∀ a', (p.addressTexts mode).Spells a' → a' = a) ∧
        ∀ name (e : Env σ), (Link.setStatic M.platform name (p.addressTexts mode) e).1 = none →
          (∃ err e₁, e.perform (M.platform.setMethod name .static) = (.error err, e₁)) ∨
          ∃ err e₁ e₂, e.perform (M.platform.setMethod name .static) = (.ok (), e₁) ∧
            e₁.perform (M.platform.setAddress name a) = (.error err, e₂)) := by
  refine ⟨?_, fun hfixed => ?_⟩
  · obtain ⟨setup, hsetup⟩ := interfaceSetup_of_valid hv
    refine ⟨setup, hsetup, interfaceSetup_eq_ok_iff.mp hsetup, fun setup' h => ?_, fun m s hm => ?_⟩
    · exact Except.ok.inj ((interfaceSetup_eq_ok_iff.mpr h).symm.trans hsetup)
    have hcleared : m.cleared.interface? kind = m.interface? kind := by cases kind <;> rfl
    rw [bringUp_result]
    cases hi : m.interface? kind with
    | none => exact .inl ⟨rfl, by simp only [Link.start, hcleared, hi, ← hm]; rfl⟩
    | some i =>
      have hsetup' : interfaceSetup m.cleared.mode kind p = .ok setup :=
        (congrArg (interfaceSetup · kind p) hm).trans hsetup
      exact .inr ⟨i, rfl, Link.start_result M.platform (hcleared.trans hi) hsetup'⟩
  · obtain ⟨a, ha⟩ := staticAddressing_of_needed hv hfixed
    refine ⟨a, ha, staticAddressing_eq_ok_iff.mp ha, fun a' ha' => ?_, fun name e => Link.setStatic_eq_none ha⟩
    exact Except.ok.inj ((staticAddressing_eq_ok_iff.mpr ha').symm.trans ha)

end ControlPlane

namespace Camera

open Simulation ControlPlane

/-- A Wi-Fi network that the camera has a fixed address in, without a DNS server. -/
def studio : Parameters :=
  { normal :=
      { netifKind := 0, ipMethod := 1
        station := { ssid := "studio", password := "12345678", encryption := 1 }
        ip := { address := "10.0.20.7", netmask := "255.255.255.0", gateway := "10.0.20.1" } } }

theorem studio_configured :
    let a : Addressing := { address := ⟨10, 0, 20, 7⟩, netmask := ⟨255, 255, 255, 0⟩, gateway := ⟨10, 0, 20, 1⟩ }
    let setup : InterfaceSetup := .station "studio" "12345678" .wpa3
    validate (.needed .normal .wifi) studio .connect = .ok () ∧
    studio.Configures .normal .wifi setup ∧ (∀ setup', studio.Configures .normal .wifi setup' → setup' = setup) ∧
    (∀ (m : ModeState) (s : PlaneState), m.mode = .normal →
      (m.interface? .wifi = none ∧ (plane.bringUp m .wifi studio s).1 = .error (.noInterfaceOfKind .normal .wifi)) ∨
      ∃ i, m.interface? .wifi = some i ∧
        (plane.bringUp m .wifi studio s).1 =
          (Link.bringUp plane.platform i.name setup s.env).1.mapError .platform) ∧
    (studio.addressTexts .normal).Spells a ∧ (∀ a', (studio.addressTexts .normal).Spells a' → a' = a) := by
  intro a setup
  have hv : validate (.needed .normal .wifi) studio .connect = .ok () := by decide +kernel
  obtain ⟨⟨setup', hsetup', hconfigures, hsole, hstart⟩, hlink⟩ := validated_configures plane hv
  have hsetup : interfaceSetup .normal .wifi studio = .ok setup := by decide +kernel
  obtain rfl : setup' = setup := Except.ok.inj (hsetup'.symm.trans hsetup)
  obtain ⟨a', ha', hspells, honly, -⟩ := hlink (by decide +kernel)
  have ha : staticAddressing (studio.addressTexts .normal) = .ok a := by decide +kernel
  obtain rfl : a' = a := Except.ok.inj (ha'.symm.trans ha)
  exact ⟨hv, hconfigures, hsole, hstart, hspells, honly⟩

end Camera

end Connectivity
