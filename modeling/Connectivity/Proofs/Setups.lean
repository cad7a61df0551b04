/-
  Connectivity.Proofs.Setups — parameters that are valid for a connection set it up.
  - `interfaceSetup_eq_ok_iff`: the setup of an interface that parameters configure, and no other.
  - `configures_of_valid`: valid parameters configure the interface of either mode.
  - `staticAddressing_of_valid`: and an access point has its address from them.
  - `Link.setStatic_cases`: an address that they spell is set unless the platform refuses it.
-/

import Connectivity.Proofs.Validity

namespace Connectivity

/-! ## Interfaces -/

/-- The setup that parameters configure. An Ethernet port needs none. Over Wi-Fi a mode has the name, the password
    and the security of its section, and an access point has the channel too. -/
inductive Parameters.Configures (p : Parameters) : Mode → InterfaceKind → InterfaceSetup → Prop
  | ethernet : p.Configures .normal .ethernet .ethernet
  | station {security : Security} :
      Security.ofRaw? p.normal.station.encryption = some security →
      p.Configures .normal .wifi (.station p.normal.station.ssid p.normal.station.password security)
  | accessPoint {kind : InterfaceKind} {security : Security} {channel : UInt8} :
      Security.ofRaw? p.accessPoint.ap.encryption = some security → channel.toNat = p.accessPoint.ap.channel →
      p.Configures .accessPoint kind (.accessPoint p.accessPoint.ap.ssid p.accessPoint.ap.password security channel)

theorem securityOf_eq_ok_iff {raw : Int} {security : Security} :
    securityOf raw = .ok security ↔ Security.ofRaw? raw = some security := by
  unfold securityOf
  split <;> rename_i hx <;> simp [hx]

theorem interfaceSetup_eq_ok_iff {mode : Mode} {kind : InterfaceKind} {p : Parameters} {setup : InterfaceSetup} :
    interfaceSetup mode kind p = .ok setup ↔ p.Configures mode kind setup := by
  constructor
  · intro h
    cases mode with
    | normal =>
      cases kind with
      | ethernet =>
        cases h
        exact .ethernet
      | wifi =>
        simp only [interfaceSetup] at h
        cases hs : securityOf p.normal.station.encryption with
        | error err => rw [hs] at h; cases h
        | ok security =>
          rw [hs] at h
          cases h
          exact .station (securityOf_eq_ok_iff.mp hs)
    | accessPoint =>
      simp only [interfaceSetup] at h
      split at h
      · rename_i hchannel
        cases hs : securityOf p.accessPoint.ap.encryption with
        | error err => rw [hs] at h; cases h
        | ok security =>
          rw [hs] at h
          cases h
          refine .accessPoint (securityOf_eq_ok_iff.mp hs) ?_
          have hword : p.accessPoint.ap.channel.toNat.toUInt8.toNat = p.accessPoint.ap.channel.toNat % 2 ^ 8 :=
            UInt8.toNat_ofNat'
          omega
      · cases h
  · rintro (_ | hs | ⟨hs, hchannel⟩)
    · rfl
    · simp only [interfaceSetup, securityOf_eq_ok_iff.mpr hs]
      rfl
    · rename_i security channel
      have hlt := channel.toNat_lt
      have hrange : 0 ≤ p.accessPoint.ap.channel ∧ p.accessPoint.ap.channel ≤ 255 := by omega
      have hword : p.accessPoint.ap.channel.toNat.toUInt8 = channel := by
        rw [← hchannel]
        exact UInt8.ofNat_toNat
      simp only [interfaceSetup, if_pos hrange, securityOf_eq_ok_iff.mpr hs, hword]
      rfl

theorem Security.ofRaw?_of_between {n : Int} (h : Rules.between 0 2 n = true) :
    ∃ security, Security.ofRaw? n = some security := by
  have hn : 0 ≤ n ∧ n ≤ 2 := of_decide_eq_true h
  have hcases : n = 0 ∨ n = 1 ∨ n = 2 := by omega
  rcases hcases with rfl | rfl | rfl
  · exact ⟨.wpa2, rfl⟩
  · exact ⟨.wpa3, rfl⟩
  · exact ⟨.wpa2wpa3, rfl⟩

theorem configures_of_valid {mode : Mode} {kind : InterfaceKind} {p : Parameters}
    (h : validate (.needed mode kind) p .connect = .ok ()) : ∃ setup, p.Configures mode kind setup := by
  have haccepts := validate_ok_iff.mp h
  cases mode with
  | normal =>
    cases kind with
    | ethernet => exact ⟨_, .ethernet⟩
    | wifi =>
      obtain ⟨security, hs⟩ := Security.ofRaw?_of_between (haccepts (.number .stationEncryption) (by decide))
      exact ⟨_, .station hs⟩
  | accessPoint =>
    obtain ⟨security, hs⟩ :=
      Security.ofRaw?_of_between (haccepts (.number .apEncryption) (by cases kind <;> decide))
    have hchannel : Rules.between 1 14 p.accessPoint.ap.channel = true :=
      haccepts (.number .apChannel) (by cases kind <;> decide)
    have hrange : 1 ≤ p.accessPoint.ap.channel ∧ p.accessPoint.ap.channel ≤ 14 := of_decide_eq_true hchannel
    obtain ⟨n, hn⟩ : ∃ n : Nat, p.accessPoint.ap.channel = n := Int.eq_ofNat_of_zero_le (by omega)
    have hword : (UInt8.ofNat n).toNat = n := UInt8.toNat_ofNat_of_lt' (show n < UInt8.size by unfold UInt8.size; omega)
    exact ⟨_, .accessPoint hs (by rw [hword, hn])⟩

theorem interfaceSetup_of_valid {mode : Mode} {kind : InterfaceKind} {p : Parameters}
    (h : validate (.needed mode kind) p .connect = .ok ()) : ∃ setup, interfaceSetup mode kind p = .ok setup := by
  obtain ⟨setup, hs⟩ := configures_of_valid h
  exact ⟨setup, interfaceSetup_eq_ok_iff.mpr hs⟩

/-! ## Addresses -/

theorem requiredAddress_of_ipv4Text {s : String} (part : AddressPart) (h : Rules.ipv4Text true s = true) :
    ∃ x, requiredAddress part s = .ok x := by
  have hsome : (Net.Ipv4.ofString? s).isSome = true := by
    simp only [Rules.ipv4Text, Rules.emptyOrIpv4] at h
    split at h
    · cases h
    · rename_i hn
      simp only [hn, Bool.false_or, Bool.and_eq_true] at h
      exact h.2
  obtain ⟨x, hx⟩ := Option.isSome_iff_exists.mp hsome
  exact ⟨x, by simp [requiredAddress, hx]⟩

theorem optionalAddress_of_emptyOrIpv4 {s : String} (part : AddressPart) (h : Rules.emptyOrIpv4 s = true) :
    ∃ x, optionalAddress part s = .ok x := by
  unfold optionalAddress
  split
  · exact ⟨_, rfl⟩
  · rename_i hn
    refine requiredAddress_of_ipv4Text part ?_
    rw [Rules.ipv4Text, if_neg hn, h]

theorem staticAddressing_of_rules {s : AddressTexts} (ha : Rules.ipv4Text true s.address = true)
    (hn : Rules.ipv4Text true s.netmask = true) (hg : Rules.emptyOrIpv4 s.gateway = true)
    (hd : Rules.emptyOrIpv4 s.dns = true) : ∃ a, staticAddressing s = .ok a := by
  obtain ⟨address, ha⟩ := requiredAddress_of_ipv4Text .address ha
  obtain ⟨netmask, hn⟩ := requiredAddress_of_ipv4Text .netmask hn
  obtain ⟨gateway, hg⟩ := optionalAddress_of_emptyOrIpv4 .gateway hg
  obtain ⟨dns, hd⟩ := optionalAddress_of_emptyOrIpv4 .dns hd
  exact ⟨_, by simp only [staticAddressing, ha, hn, hg, hd]; rfl⟩

theorem staticAddressing_of_valid {kind : InterfaceKind} {p : Parameters}
    (h : validate (.needed .accessPoint kind) p .connect = .ok ()) :
    ∃ a, staticAddressing p.accessPoint.ip = .ok a := by
  have haccepts := validate_ok_iff.mp h
  have hneeded (f : Field) (hf : Mask.accessPoint.has f = true) : f.accepts .connect p = true := haccepts f hf
  exact staticAddressing_of_rules (hneeded (.text .apAddress) (by decide)) (hneeded (.text .apNetmask) (by decide))
    (hneeded (.text .apGateway) (by decide)) (hneeded (.text .apDns) (by decide))

/-- What becomes of an address that is spelled is what the platform answers to the method, and then to it. -/
theorem Link.setStatic_cases {σ : Type} (P : Platform σ) (name : String) {texts : AddressTexts} {a : Addressing}
    (ha : staticAddressing texts = .ok a) (e : Env σ) :
    (∃ err e₁, e.perform (P.setMethod name .static) = (.error err, e₁) ∧ setStatic P name texts e = (none, e₁)) ∨
    ∃ e₁, e.perform (P.setMethod name .static) = (.ok (), e₁) ∧
      ((∃ err e₂, e₁.perform (P.setAddress name a) = (.error err, e₂) ∧ setStatic P name texts e = (none, e₂)) ∨
        ∃ e₂, e₁.perform (P.setAddress name a) = (.ok (), e₂) ∧ setStatic P name texts e = (some a, e₂)) := by
  unfold setStatic
  rw [ha]
  cases hm : e.perform (P.setMethod name .static) with
  | mk answer e₁ =>
    cases answer with
    | error err => exact .inl ⟨err, e₁, rfl, rfl⟩
    | ok =>
      refine .inr ⟨e₁, rfl, ?_⟩
      cases hs : e₁.perform (P.setAddress name a) with
      | mk answer e₂ =>
        cases answer with
        | error err => exact .inl ⟨err, e₂, rfl, by simp only [hs]⟩
        | ok => exact .inr ⟨e₂, rfl, by simp only [hs]⟩

end Connectivity
