/-
  Connectivity.Proofs.EncodedText — bytes are read as a text exactly if they are the text's UTF-8 encoding.
  - `Sequence`: the bytes that are read as one character. They are those that encode it
    (`Sequence.encode_eq`, `sequence_encode`).
  - `decode_eq_ok_iff`: so it is with whole texts, whatever the bytes are.
-/

import Connectivity.Text.Utf8

namespace Connectivity.Text.Utf8

open String (utf8EncodeChar)

/-! ## Bytes -/

theorem within_iff {low high : Nat} {b : UInt8} : within low high b = true ↔ low ≤ b.toNat ∧ b.toNat ≤ high := by
  simp [within]

theorem isTail_iff {b : UInt8} : isTail b = true ↔ 0x80 ≤ b.toNat ∧ b.toNat ≤ 0xBF := within_iff

theorem width_cases (a : UInt8) :
    (width a = 1 ∧ a.toNat ≤ 0x7F) ∨ (width a = 2 ∧ 0xC2 ≤ a.toNat ∧ a.toNat ≤ 0xDF) ∨
      (width a = 3 ∧ 0xE0 ≤ a.toNat ∧ a.toNat ≤ 0xEF) ∨ (width a = 4 ∧ 0xF0 ≤ a.toNat ∧ a.toNat ≤ 0xF4) ∨
      (width a = 0 ∧ 0x80 ≤ a.toNat ∧ (a.toNat ≤ 0xC1 ∨ 0xF5 ≤ a.toNat)) := by
  unfold width
  simp only [within_iff]
  (repeat' split) <;> omega

theorem isSecond_iff {a b : UInt8} :
    isSecond a b = true ↔
      (0x80 ≤ b.toNat ∧ b.toNat ≤ 0xBF) ∧ (a.toNat = 0xE0 → 0xA0 ≤ b.toNat) ∧ (a.toNat = 0xED → b.toNat ≤ 0x9F) ∧
        (a.toNat = 0xF0 → 0x90 ≤ b.toNat) ∧ (a.toNat = 0xF4 → b.toNat ≤ 0x8F) := by
  unfold isSecond
  simp only [← UInt8.toNat_inj, UInt8.reduceToNat]
  (repeat' split) <;> simp only [within_iff, isTail_iff] <;> omega

/-! ## Characters -/

/-- The bytes that are read as one character. -/
inductive Sequence : List UInt8 → Char → Prop
  | one {a : UInt8} (ha : width a = 1) : Sequence [a] (Char.ofNat a.toNat)
  | two {a b : UInt8} (ha : width a = 2) (hb : isTail b = true) : Sequence [a, b] (char2 a b)
  | three {a b c : UInt8} (ha : width a = 3) (hb : isSecond a b = true) (hc : isTail c = true) :
    Sequence [a, b, c] (char3 a b c)
  | four {a b c d : UInt8} (ha : width a = 4) (hb : isSecond a b = true) (hc : isTail c = true)
    (hd : isTail d = true) : Sequence [a, b, c, d] (char4 a b c d)

/-- The encoding of a character by its number. -/
theorem utf8EncodeChar_ofNat {n : Nat} (h : n.isValidChar) :
    utf8EncodeChar (.ofNat n) =
      if n ≤ 0x7F then [.ofNat n]
      else if n ≤ 0x7FF then [.ofNat (n / 64 % 32 + 0xC0), .ofNat (n % 64 + 0x80)]
      else if n ≤ 0xFFFF then
        [.ofNat (n / 4096 % 16 + 0xE0), .ofNat (n / 64 % 64 + 0x80), .ofNat (n % 64 + 0x80)]
      else
        [.ofNat (n / 262144 % 8 + 0xF0), .ofNat (n / 4096 % 64 + 0x80), .ofNat (n / 64 % 64 + 0x80),
          .ofNat (n % 64 + 0x80)] := by
  have hn : (Char.ofNat n).val.toNat = n := by
    rw [Char.ofNat, dif_pos h]
    rfl
  simp only [utf8EncodeChar, hn]

theorem ofNat_eq_of_toNat {a : UInt8} {n : Nat} (h : a.toNat = n) : UInt8.ofNat n = a := h ▸ UInt8.ofNat_toNat

theorem Sequence.encode_eq {bytes : List UInt8} {x : Char} (h : Sequence bytes x) : utf8EncodeChar x = bytes := by
  cases h with
  | @one a ha =>
    have hwidth := width_cases a
    rw [utf8EncodeChar_ofNat (.inl (by omega)), if_pos (by omega), UInt8.ofNat_toNat]
  | @two a b ha hb =>
    have hwidth := width_cases a
    rw [isTail_iff] at hb
    unfold char2 payload
    rw [utf8EncodeChar_ofNat (.inl (by omega)), if_neg (by omega), if_pos (by omega),
      ofNat_eq_of_toNat (a := a) (by omega), ofNat_eq_of_toNat (a := b) (by omega)]
  | @three a b c ha hb hc =>
    have hwidth := width_cases a
    rw [isTail_iff] at hc
    rw [isSecond_iff] at hb
    unfold char3 payload
    rw [utf8EncodeChar_ofNat, if_neg (by omega), if_neg (by omega), if_pos (by omega),
      ofNat_eq_of_toNat (a := a) (by omega), ofNat_eq_of_toNat (a := b) (by omega),
      ofNat_eq_of_toNat (a := c) (by omega)]
    unfold Nat.isValidChar
    omega
  | @four a b c d ha hb hc hd =>
    have hwidth := width_cases a
    rw [isTail_iff] at hc hd
    rw [isSecond_iff] at hb
    unfold char4 payload
    rw [utf8EncodeChar_ofNat, if_neg (by omega), if_neg (by omega), if_neg (by omega),
      ofNat_eq_of_toNat (a := a) (by omega), ofNat_eq_of_toNat (a := b) (by omega),
      ofNat_eq_of_toNat (a := c) (by omega), ofNat_eq_of_toNat (a := d) (by omega)]
    unfold Nat.isValidChar
    omega

theorem sequence_one {a : UInt8} {n : Nat} (hn : n ≤ 0x7F) (ha : a.toNat = n) : Sequence [a] (.ofNat n) := by
  have hwidth := width_cases a
  exact ha ▸ .one (by omega)

theorem sequence_two {a b : UInt8} {n : Nat} (hlow : 0x7F < n) (hhigh : n ≤ 0x7FF)
    (ha : a.toNat = n / 64 % 32 + 0xC0) (hb : b.toNat = n % 64 + 0x80) : Sequence [a, b] (.ofNat n) := by
  have hwidth := width_cases a
  have hn : n = a.toNat % 32 * 64 + b.toNat % 64 := by omega
  rw [hn]
  exact .two (by omega) (isTail_iff.mpr (by omega))

theorem sequence_three {a b c : UInt8} {n : Nat} (hlow : 0x7FF < n) (hhigh : n ≤ 0xFFFF) (hn : n.isValidChar)
    (ha : a.toNat = n / 4096 % 16 + 0xE0) (hb : b.toNat = n / 64 % 64 + 0x80) (hc : c.toNat = n % 64 + 0x80) :
    Sequence [a, b, c] (.ofNat n) := by
  have hwidth := width_cases a
  unfold Nat.isValidChar at hn
  have hn' : n = (a.toNat % 16 * 64 + b.toNat % 64) * 64 + c.toNat % 64 := by omega
  rw [hn']
  exact .three (by omega) (isSecond_iff.mpr (by omega)) (isTail_iff.mpr (by omega))

theorem sequence_four {a b c d : UInt8} {n : Nat} (hlow : 0xFFFF < n) (hn : n.isValidChar)
    (ha : a.toNat = n / 262144 % 8 + 0xF0) (hb : b.toNat = n / 4096 % 64 + 0x80) (hc : c.toNat = n / 64 % 64 + 0x80)
    (hd : d.toNat = n % 64 + 0x80) : Sequence [a, b, c, d] (.ofNat n) := by
  have hwidth := width_cases a
  unfold Nat.isValidChar at hn
  have hn' : n = ((a.toNat % 8 * 64 + b.toNat % 64) * 64 + c.toNat % 64) * 64 + d.toNat % 64 := by omega
  rw [hn']
  exact .four (by omega) (isSecond_iff.mpr (by omega)) (isTail_iff.mpr (by omega)) (isTail_iff.mpr (by omega))

theorem sequence_encode (x : Char) : Sequence (utf8EncodeChar x) x := by
  obtain ⟨n, hn, rfl⟩ : ∃ n : Nat, n.isValidChar ∧ x = .ofNat n := ⟨x.toNat, x.valid, (Char.ofNat_toNat x).symm⟩
  have hbyte {k : Nat} (hk : k < 256) : (UInt8.ofNat k).toNat = k := UInt8.toNat_ofNat_of_lt' hk
  rw [utf8EncodeChar_ofNat hn]
  by_cases h1 : n ≤ 0x7F
  · rw [if_pos h1]
    exact sequence_one h1 (hbyte (by omega))
  · by_cases h2 : n ≤ 0x7FF
    · rw [if_neg h1, if_pos h2]
      exact sequence_two (by omega) h2 (hbyte (by omega)) (hbyte (by omega))
    · by_cases h3 : n ≤ 0xFFFF
      · rw [if_neg h1, if_neg h2, if_pos h3]
        exact sequence_three (by omega) h3 hn (hbyte (by omega)) (hbyte (by omega)) (hbyte (by omega))
      · rw [if_neg h1, if_neg h2, if_neg h3]
        exact sequence_four (by omega) hn (hbyte (by omega)) (hbyte (by omega)) (hbyte (by omega))
          (hbyte (by omega))

theorem Sequence.eq_zero {bytes : List UInt8} {x : Char} (hx : Sequence bytes x) (h : 0 ∈ bytes) :
    x = Char.ofNat 0 := by
  cases hx with
  | one ha =>
    obtain rfl := List.mem_singleton.mp h
    rfl
  | two ha hb =>
    simp only [List.mem_cons, List.not_mem_nil, or_false] at h
    rcases h with rfl | rfl
    · exact absurd ha (by decide)
    · exact absurd hb (by decide)
  | three ha hb hc =>
    simp only [List.mem_cons, List.not_mem_nil, or_false] at h
    rcases h with rfl | rfl | rfl
    · exact absurd ha (by decide)
    · exact absurd (isSecond_iff.mp hb).1.1 (by decide)
    · exact absurd hc (by decide)
  | four ha hb hc hd =>
    simp only [List.mem_cons, List.not_mem_nil, or_false] at h
    rcases h with rfl | rfl | rfl | rfl
    · exact absurd ha (by decide)
    · exact absurd (isSecond_iff.mp hb).1.1 (by decide)
    · exact absurd hc (by decide)
    · exact absurd hd (by decide)

/-- A zero byte stands for the character with the number zero, and for no other. -/
theorem zero_mem_encode {x : Char} (h : 0 ∈ utf8EncodeChar x) : x = Char.ofNat 0 := (sequence_encode x).eq_zero h

/-! ## Texts -/

theorem decodeFrom_append {bytes : List UInt8} {x : Char} (h : Sequence bytes x) (i : Nat) (rest : List UInt8) :
    decodeFrom i (bytes ++ rest) = (decodeFrom (i + bytes.length) rest).map (x :: ·) := by
  cases h with
  | one ha =>
    rw [List.cons_append, decodeFrom.eq_def]
    simp only [ha]
    rfl
  | two ha hb =>
    rw [List.cons_append, decodeFrom.eq_def]
    simp only [ha, hb, List.cons_append, if_true]
    rfl
  | three ha hb hc =>
    rw [List.cons_append, decodeFrom.eq_def]
    simp only [ha, hb, hc, List.cons_append, if_true]
    rfl
  | four ha hb hc hd =>
    rw [List.cons_append, decodeFrom.eq_def]
    simp only [ha, hb, hc, hd, List.cons_append, if_true]
    rfl

theorem decodeFrom_encode (i : Nat) (cs : List Char) : decodeFrom i (cs.flatMap utf8EncodeChar) = .ok cs := by
  induction cs generalizing i with
  | nil => rfl
  | cons c cs ih =>
    rw [List.flatMap_cons, decodeFrom_append (sequence_encode c), ih]
    rfl

/-- A character was read before the rest of a text. -/
theorem append_eq_encode {bytes rest : List UInt8} {x : Char} {cs : List Char} {r : Except Malformed (List Char)}
    (hx : Sequence bytes x) (h : r.map (x :: ·) = .ok cs)
    (ih : ∀ {cs : List Char}, r = .ok cs → rest = cs.flatMap utf8EncodeChar) :
    bytes ++ rest = cs.flatMap utf8EncodeChar := by
  cases r with
  | error e => cases h
  | ok cs' =>
    cases h
    rw [List.flatMap_cons, hx.encode_eq, ih rfl]

theorem eq_encode_of_decodeFrom {i : Nat} {bytes : List UInt8} {cs : List Char} (h : decodeFrom i bytes = .ok cs) :
    bytes = cs.flatMap utf8EncodeChar := by
  fun_induction decodeFrom i bytes generalizing cs with
  | case1 =>
    cases h
    rfl
  | case2 i a rest ha ih => exact append_eq_encode (.one ha) h ih
  | case4 i a ha b rest hb ih => exact append_eq_encode (.two ha hb) h ih
  | case8 i a ha b hb c rest hc ih => exact append_eq_encode (.three ha hb hc) h ih
  | case14 i a ha b hb c hc d rest hd ih => exact append_eq_encode (.four ha hb hc hd) h ih
  | _ => cases h

/-- Bytes are read as a text exactly if they encode it; what encodes no text is refused. -/
theorem decode_eq_ok_iff {bytes : List UInt8} {cs : List Char} :
    decode bytes = .ok cs ↔ bytes = cs.flatMap utf8EncodeChar :=
  ⟨eq_encode_of_decodeFrom, fun h => h ▸ decodeFrom_encode 0 cs⟩

end Connectivity.Text.Utf8
