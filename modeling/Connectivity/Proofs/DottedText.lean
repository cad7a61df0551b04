/-
  Connectivity.Proofs.DottedText — an address and its dotted text say the same.
  - `fields_join`: what was joined is cut again into the fields that it was joined of.
  - `toDigits_value`: a decimal number without a leading zero is the one that its value is written as.
  - `octet?_eq_some_iff`, `ofString?_eq_some_iff`: so a text is read as an address exactly if the address is
    written as that text.
-/

import Connectivity.Net.Ipv4
import Mathlib.Data.List.Basic

namespace Connectivity

namespace Text

/-! ## Fields -/

theorem fields_of_notMem {sep : Char} {f : List Char} (h : sep ∉ f) : fields sep f = [f] := by
  induction f with
  | nil => rfl
  | cons c cs ih =>
    obtain ⟨hc, hcs⟩ := not_or.mp (mt List.mem_cons.mpr h)
    rw [fields, if_neg (Ne.symm hc), ih hcs]

/-- The first separator ends the first field. -/
theorem fields_append {sep : Char} {f rest : List Char} (h : sep ∉ f) :
    fields sep (f ++ sep :: rest) = f :: fields sep rest := by
  induction f with
  | nil => simp [fields]
  | cons c cs ih =>
    obtain ⟨hc, hcs⟩ := not_or.mp (mt List.mem_cons.mpr h)
    rw [List.cons_append, fields, if_neg (Ne.symm hc), ih hcs]

theorem fields_join {sep : Char} {fs : List (List Char)} (hne : fs ≠ []) (h : ∀ f ∈ fs, sep ∉ f) :
    fields sep (join sep fs) = fs := by
  induction fs with
  | nil => exact absurd rfl hne
  | cons f fs ih =>
    have hf : sep ∉ f := h f List.mem_cons_self
    cases fs with
    | nil => exact fields_of_notMem hf
    | cons g gs =>
      rw [show join sep (f :: g :: gs) = f ++ sep :: join sep (g :: gs) from rfl, fields_append hf,
        ih (List.cons_ne_nil g gs) fun x hx => h x (List.mem_cons_of_mem f hx)]

/-! ## Numbers -/

namespace Decimal

theorem value_eq_ofDigitChars (cs : List Char) : value cs = Nat.ofDigitChars 10 cs 0 :=
  Nat.ofDigitChars_eq_foldl.symm

theorem digitChar_digit {c : Char} (h : c.isDigit = true) : digit c < 10 ∧ (digit c).digitChar = c := by
  obtain ⟨hlow, hhigh⟩ : 48 ≤ c.toNat ∧ c.toNat ≤ 57 := Char.isDigit_iff_toNat.mp h
  have hd : digit c = c.toNat - 48 := rfl
  refine ⟨by omega, Char.toNat_inj.mp ?_⟩
  rw [Nat.toNat_digitChar_of_lt_ten (by omega)]
  omega

theorem nat?_toDigits (n : Nat) : nat? (Nat.toDigits 10 n) = some n := by
  have hnumber : isNumber (Nat.toDigits 10 n) = true := by
    simp only [isNumber, Bool.and_eq_true, List.all_eq_true, Bool.not_eq_true', List.isEmpty_eq_false_iff]
    exact ⟨Nat.toDigits_ne_nil, fun c hc => Nat.isDigit_of_mem_toDigits (by decide) (by decide) hc⟩
  rw [nat?, if_pos hnumber, value_eq_ofDigitChars, Nat.ofDigitChars_ten_toDigits]

/-- Digits after a number that is not zero are digits of the number that they make with it. -/
theorem toDigits_ofDigitChars {cs : List Char} {n : Nat} (hn : 0 < n) (h : ∀ c ∈ cs, c.isDigit = true) :
    Nat.toDigits 10 (Nat.ofDigitChars 10 cs n) = Nat.toDigits 10 n ++ cs := by
  induction cs generalizing n with
  | nil => simp
  | cons c cs ih =>
    obtain ⟨hd, hc⟩ := digitChar_digit (h c List.mem_cons_self)
    have hnext : Nat.toDigits 10 (10 * n + digit c) = Nat.toDigits 10 n ++ [c] := by
      rw [← Nat.toDigits_append_toDigits (by decide) hn hd, Nat.toDigits_of_lt_base hd, hc]
    calc Nat.toDigits 10 (Nat.ofDigitChars 10 (c :: cs) n)
        = Nat.toDigits 10 (Nat.ofDigitChars 10 cs (10 * n + digit c)) := rfl
      _ = Nat.toDigits 10 (10 * n + digit c) ++ cs :=
        ih (by omega) fun x hx => h x (List.mem_cons_of_mem c hx)
      _ = Nat.toDigits 10 n ++ c :: cs := by rw [hnext, List.append_assoc, List.singleton_append]

theorem toDigits_value {cs : List Char} (h : isNumber cs = true) (hzero : cs.head? = some '0' → cs.length ≤ 1) :
    Nat.toDigits 10 (value cs) = cs := by
  simp only [isNumber, Bool.and_eq_true, List.all_eq_true] at h
  obtain ⟨hne, hdigits⟩ := h
  cases cs with
  | nil => cases hne
  | cons c cs =>
    obtain ⟨hd, hc⟩ := digitChar_digit (hdigits c List.mem_cons_self)
    have hvalue : value (c :: cs) = Nat.ofDigitChars 10 cs (digit c) := by
      rw [value_eq_ofDigitChars, Nat.ofDigitChars_cons, Nat.mul_zero, Nat.zero_add, digit]
    rw [hvalue]
    by_cases hz : digit c = 0
    · have hc0 : c = '0' := by rw [← hc, hz]; rfl
      obtain rfl : cs = [] := by simpa [hc0] using hzero
      rw [hz, hc0]
      rfl
    · rw [toDigits_ofDigitChars (by omega) fun x hx => hdigits x (List.mem_cons_of_mem c hx),
        Nat.toDigits_of_lt_base hd, hc, List.singleton_append]

theorem eq_zero_of_head?_toDigits {n : Nat} (h : (Nat.toDigits 10 n).head? = some '0') : n = 0 := by
  induction n using Nat.strongRecOn with
  | ind n ih =>
    by_cases hn : n < 10
    · rw [Nat.toDigits_of_lt_base hn] at h
      exact Nat.digitChar_eq_zero.mp (Option.some.inj h)
    · rw [Nat.toDigits_of_base_le (by decide) (by omega), List.head?_append_of_ne_nil _ Nat.toDigits_ne_nil] at h
      have := ih (n / 10) (by omega) h
      omega

end Decimal

end Text

/-! ## Addresses -/

namespace Net.Ipv4

open Text

theorem octet?_octetText (b : UInt8) : octet? (octetText b) = some b := by
  have hb : b.toNat < 256 := b.toNat_lt
  have hlength : (octetText b).length ≤ 3 := (Nat.length_toDigits_le_iff (by decide) (by decide)).mpr (by omega)
  have hzero : ¬((octetText b).head? = some '0' ∧ 1 < (octetText b).length) := by
    rintro ⟨hhead, hlong⟩
    rw [octetText, Decimal.eq_zero_of_head?_toDigits hhead] at hlong
    cases hlong
    contradiction
  rw [octet?, if_neg (not_or.mpr ⟨by omega, hzero⟩), octetText, Decimal.nat?_toDigits, Option.bind_some, if_pos hb]
  exact congrArg some UInt8.ofNat_toNat

theorem octetText_of_octet? {cs : List Char} {b : UInt8} (h : octet? cs = some b) : octetText b = cs := by
  simp only [octet?] at h
  split at h
  · cases h
  · rename_i hshape
    obtain ⟨n, hn, hb⟩ := Option.bind_eq_some_iff.mp h
    simp only [Decimal.nat?] at hn
    split at hn <;> cases hn
    rename_i hnumber
    split at hb <;> cases hb
    rename_i hlt
    rw [octetText, UInt8.toNat_ofNat_of_lt' hlt]
    exact Decimal.toDigits_value hnumber fun hhead => Nat.le_of_not_lt fun hlong => hshape (.inr ⟨hhead, hlong⟩)

theorem octet?_eq_some_iff {cs : List Char} {b : UInt8} : octet? cs = some b ↔ octetText b = cs :=
  ⟨octetText_of_octet?, fun h => h ▸ octet?_octetText b⟩

theorem dot_notMem_octetText (b : UInt8) : '.' ∉ octetText b := fun h =>
  absurd (Nat.isDigit_of_mem_toDigits (by decide) (by decide) h) (by decide)

theorem ofChars?_toChars (x : Ipv4) : ofChars? x.toChars = some x := by
  have hfields : fields '.' x.toChars = [octetText x.a, octetText x.b, octetText x.c, octetText x.d] := by
    refine fields_join (List.cons_ne_nil _ _) fun f hf => ?_
    simp only [List.mem_cons, List.not_mem_nil, or_false] at hf
    rcases hf with rfl | rfl | rfl | rfl <;> exact dot_notMem_octetText _
  simp only [ofChars?, hfields, List.map_cons, List.map_nil, octet?_octetText]

theorem toChars_of_ofChars? {cs : List Char} {x : Ipv4} (h : ofChars? cs = some x) : x.toChars = cs := by
  simp only [ofChars?] at h
  split at h
  · rename_i a b c d hoctets
    cases h
    obtain ⟨fa, fs, hcs, ha, hoctets⟩ := List.map_eq_cons_iff.mp hoctets
    obtain ⟨fb, fs, rfl, hb, hoctets⟩ := List.map_eq_cons_iff.mp hoctets
    obtain ⟨fc, fs, rfl, hc, hoctets⟩ := List.map_eq_cons_iff.mp hoctets
    obtain ⟨fd, fs, rfl, hd, hoctets⟩ := List.map_eq_cons_iff.mp hoctets
    obtain rfl := List.map_eq_nil_iff.mp hoctets
    simp only [toChars, octetText_of_octet? ha, octetText_of_octet? hb, octetText_of_octet? hc,
      octetText_of_octet? hd, ← hcs, join_fields]
  · cases h

/-- A text is read as an address exactly if the address is written as that text. -/
theorem ofString?_eq_some_iff {s : String} {x : Ipv4} : ofString? s = some x ↔ x.text = s := by
  constructor
  · intro h
    rw [text, toChars_of_ofChars? h, String.ofList_toList]
  · rintro rfl
    rw [ofString?, text, String.toList_ofList, ofChars?_toChars]

end Net.Ipv4

end Connectivity
