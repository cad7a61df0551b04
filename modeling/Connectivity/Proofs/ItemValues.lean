/-
  Connectivity.Proofs.ItemValues — what the bytes of an older setting are read as.
  - `Stripped`: a text without the blanks at its ends (`trim_eq_iff`).
  - `Denotes`: an optional sign and digits stand for an integer (`int?_eq_some_iff`), as the decimal text of an
    integer does for this integer (`denotes_toString`).
  - `UpToZero`: the bytes before the first zero byte. `itemText_eq_ok_iff`, `itemNumber_eq_ok_iff`: what texts and
    numbers are read of them.
  - `items_read`: so values are read exactly, and a number past 32 bits is none.
-/

import Mathlib.Algebra.Group.Int.Defs
import Mathlib.Data.List.TakeWhile
import Connectivity.Legacy
import Connectivity.Proofs.DottedText
import Connectivity.Proofs.EncodedText

namespace Connectivity

namespace Text

/-! ## Blanks -/

/-- What is left of a text without the blanks at its ends. -/
structure Stripped (cs t : List Char) : Prop where
  padded : ∃ before after, cs = before ++ t ++ after ∧ (∀ c ∈ before, isBlank c = true) ∧
    ∀ c ∈ after, isBlank c = true
  first : ∀ c, t.head? = some c → isBlank c = false
  last : ∀ c, t.getLast? = some c → isBlank c = false

theorem head?_dropWhile_isBlank {cs : List Char} {c : Char} (h : (cs.dropWhile isBlank).head? = some c) :
    isBlank c = false := by
  have hnot := List.head?_dropWhile_not isBlank cs
  rwa [h] at hnot

theorem dropWhile_isBlank_of_head {cs : List Char} (h : ∀ c, cs.head? = some c → isBlank c = false) :
    cs.dropWhile isBlank = cs := by
  cases cs with
  | nil => rfl
  | cons c cs => rw [List.dropWhile_cons_of_neg (by simp [h c rfl])]

theorem stripped_trim (cs : List Char) : Stripped cs (trim cs) := by
  have hstart : cs.takeWhile isBlank ++ cs.dropWhile isBlank = cs := List.takeWhile_append_dropWhile
  have hend : trim cs ++ ((cs.dropWhile isBlank).reverse.takeWhile isBlank).reverse = cs.dropWhile isBlank := by
    rw [trim, ← List.reverse_append, List.takeWhile_append_dropWhile, List.reverse_reverse]
  refine ⟨⟨cs.takeWhile isBlank, ((cs.dropWhile isBlank).reverse.takeWhile isBlank).reverse, ?_, ?_, ?_⟩, ?_, ?_⟩
  · rw [List.append_assoc, hend, hstart]
  · exact fun c hc => List.mem_takeWhile_imp hc
  · exact fun c hc => List.mem_takeWhile_imp (List.mem_reverse.mp hc)
  · intro c hc
    have hhead : (cs.dropWhile isBlank).head? = some c := by rw [← hend, List.head?_append, hc, Option.some_or]
    exact head?_dropWhile_isBlank hhead
  · intro c hc
    rw [trim, List.getLast?_reverse] at hc
    exact head?_dropWhile_isBlank hc

theorem trim_eq_of_stripped {cs t : List Char} (h : Stripped cs t) : trim cs = t := by
  obtain ⟨⟨before, after, rfl, hbefore, hafter⟩, hfirst, hlast⟩ := h
  have hrest : (t.reverse.dropWhile isBlank).reverse = t := by
    rw [dropWhile_isBlank_of_head (by simpa using hlast), List.reverse_reverse]
  rw [trim, List.append_assoc, List.dropWhile_append_of_pos hbefore]
  cases t with
  | nil =>
    rw [List.nil_append, List.dropWhile_eq_nil_iff.mpr hafter]
    rfl
  | cons c t =>
    have hhead : ∀ d, (c :: t ++ after).head? = some d → isBlank d = false := hfirst
    rw [dropWhile_isBlank_of_head hhead, List.reverse_append,
      List.dropWhile_append_of_pos (by simpa using hafter), hrest]

theorem trim_eq_iff {cs t : List Char} : trim cs = t ↔ Stripped cs t :=
  ⟨fun h => h ▸ stripped_trim cs, trim_eq_of_stripped⟩

/-! ## Integers -/

namespace Decimal

/-- An optional sign and one or more digits stand for the integer. -/
inductive Denotes : List Char → Int → Prop
  | plain {cs : List Char} (hne : cs ≠ []) (hdigits : ∀ c ∈ cs, c.isDigit = true) :
    Denotes cs (Nat.ofDigitChars 10 cs 0)
  | plus {cs : List Char} (hne : cs ≠ []) (hdigits : ∀ c ∈ cs, c.isDigit = true) :
    Denotes ('+' :: cs) (Nat.ofDigitChars 10 cs 0)
  | minus {cs : List Char} (hne : cs ≠ []) (hdigits : ∀ c ∈ cs, c.isDigit = true) :
    Denotes ('-' :: cs) (-Nat.ofDigitChars 10 cs 0)

theorem nat?_eq_some_iff {cs : List Char} {n : Nat} :
    nat? cs = some n ↔ (cs ≠ [] ∧ ∀ c ∈ cs, c.isDigit = true) ∧ Nat.ofDigitChars 10 cs 0 = n := by
  simp [nat?, isNumber, value_eq_ofDigitChars]

theorem map_nat?_eq_some_iff {sign : Nat → Int} {cs : List Char} {n : Int} :
    (nat? cs).map sign = some n ↔
      (cs ≠ [] ∧ ∀ c ∈ cs, c.isDigit = true) ∧ sign (Nat.ofDigitChars 10 cs 0) = n := by
  simp only [Option.map_eq_some_iff, nat?_eq_some_iff]
  constructor
  · rintro ⟨k, ⟨hcs, rfl⟩, hn⟩
    exact ⟨hcs, hn⟩
  · rintro ⟨hcs, hn⟩
    exact ⟨_, ⟨hcs, rfl⟩, hn⟩

theorem int?_minus (cs : List Char) : int? ('-' :: cs) = (nat? cs).map fun n : Nat => -(n : Int) := by
  cases h : nat? cs <;> simp [int?, h]

theorem int?_plus (cs : List Char) : int? ('+' :: cs) = (nat? cs).map fun n : Nat => (n : Int) := by
  cases h : nat? cs <;> simp [int?, h]

theorem int?_unsigned {cs : List Char} (hminus : ∀ ds, cs ≠ '-' :: ds) (hplus : ∀ ds, cs ≠ '+' :: ds) :
    int? cs = (nat? cs).map fun n : Nat => (n : Int) := by
  cases h : nat? cs <;> simp [int?, h]

theorem int?_eq_some_of_denotes {cs : List Char} {n : Int} (h : Denotes cs n) : int? cs = some n := by
  cases h with
  | plus hne hdigits =>
    rw [int?_plus]
    exact map_nat?_eq_some_iff.mpr ⟨⟨hne, hdigits⟩, rfl⟩
  | minus hne hdigits =>
    rw [int?_minus]
    exact map_nat?_eq_some_iff.mpr ⟨⟨hne, hdigits⟩, rfl⟩
  | plain hne hdigits =>
    -- A sign is no digit.
    have hfirst (c : Char) (hc : c.isDigit = false) (ds : List Char) : cs ≠ c :: ds := by
      rintro rfl
      exact Bool.false_ne_true (hc.symm.trans (hdigits c List.mem_cons_self))
    rw [int?_unsigned (hfirst '-' rfl) (hfirst '+' rfl)]
    exact map_nat?_eq_some_iff.mpr ⟨⟨hne, hdigits⟩, rfl⟩

theorem denotes_of_int? {cs : List Char} {n : Int} (h : int? cs = some n) : Denotes cs n := by
  by_cases hminus : ∃ ds, cs = '-' :: ds
  · obtain ⟨ds, rfl⟩ := hminus
    rw [int?_minus] at h
    obtain ⟨⟨hne, hdigits⟩, rfl⟩ := map_nat?_eq_some_iff.mp h
    exact .minus hne hdigits
  · by_cases hplus : ∃ ds, cs = '+' :: ds
    · obtain ⟨ds, rfl⟩ := hplus
      rw [int?_plus] at h
      obtain ⟨⟨hne, hdigits⟩, rfl⟩ := map_nat?_eq_some_iff.mp h
      exact .plus hne hdigits
    · rw [int?_unsigned (not_exists.mp hminus) (not_exists.mp hplus)] at h
      obtain ⟨⟨hne, hdigits⟩, rfl⟩ := map_nat?_eq_some_iff.mp h
      exact .plain hne hdigits

theorem int?_eq_some_iff {cs : List Char} {n : Int} : int? cs = some n ↔ Denotes cs n :=
  ⟨denotes_of_int?, int?_eq_some_of_denotes⟩

theorem int32?_eq_some_iff {cs : List Char} {n : Int} :
    int32? cs = some n ↔ Denotes cs n ∧ -2 ^ 31 ≤ n ∧ n < 2 ^ 31 := by
  rw [int32?, Option.filter_eq_some_iff, int?_eq_some_iff, inInt32, decide_eq_true_eq]
  refine and_congr_right fun _ => and_congr_right fun _ => ?_
  exact Int.lt_add_one_iff.symm

/-- The decimal text of an integer stands for it. -/
theorem denotes_toString (n : Int) : Denotes (toString n).toList n := by
  have hdigits (m : Nat) : ∀ c ∈ Nat.toDigits 10 m, c.isDigit = true := fun c hc =>
    Nat.isDigit_of_mem_toDigits (by decide) (by decide) hc
  cases n with
  | ofNat m =>
    have htext : (toString (Int.ofNat m)).toList = Nat.toDigits 10 m := Nat.toList_repr
    have h := Denotes.plain Nat.toDigits_ne_nil (hdigits m)
    rwa [Nat.ofDigitChars_ten_toDigits, ← htext] at h
  | negSucc m =>
    have htext : (toString (Int.negSucc m)).toList = '-' :: Nat.toDigits 10 (m + 1) := by
      rw [Int.toString_eq_repr, Int.repr, String.toList_append, Nat.toList_repr]
      rfl
    have h := Denotes.minus Nat.toDigits_ne_nil (hdigits (m + 1))
    rwa [Nat.ofDigitChars_ten_toDigits, ← htext] at h

theorem mem_of_denotes {cs : List Char} {n : Int} (h : Denotes cs n) {c : Char} (hc : c ∈ cs) :
    c.isDigit = true ∨ c = '+' ∨ c = '-' := by
  cases h with
  | plain _ hdigits => exact .inl (hdigits c hc)
  | plus _ hdigits => exact (List.mem_cons.mp hc).elim (fun h => .inr (.inl h)) fun h => .inl (hdigits c h)
  | minus _ hdigits => exact (List.mem_cons.mp hc).elim (fun h => .inr (.inr h)) fun h => .inl (hdigits c h)

theorem isBlank_of_denotes {cs : List Char} {n : Int} (h : Denotes cs n) {c : Char} (hc : c ∈ cs) :
    isBlank c = false := by
  rcases mem_of_denotes h hc with hdigit | rfl | rfl
  · obtain ⟨hlow, hhigh⟩ : 48 ≤ c.toNat ∧ c.toNat ≤ 57 := Char.isDigit_iff_toNat.mp hdigit
    simp only [isBlank, Bool.or_eq_false_iff, Bool.and_eq_false_iff, decide_eq_false_iff_not, beq_eq_false_iff_ne]
    omega
  · rfl
  · rfl

end Decimal

/-- Blanks around an integer are stripped. -/
theorem stripped_of_denotes {before t after : List Char} {n : Int} (h : Decimal.Denotes t n)
    (hbefore : ∀ c ∈ before, isBlank c = true) (hafter : ∀ c ∈ after, isBlank c = true) :
    Stripped (before ++ t ++ after) t where
  padded := ⟨before, after, rfl, hbefore, hafter⟩
  first _ hc := Decimal.isBlank_of_denotes h (List.mem_of_head? hc)
  last _ hc := Decimal.isBlank_of_denotes h (List.mem_of_getLast? hc)

end Text

/-! ## Items -/

namespace Legacy

open Text Decimal

/-- The bytes before the first zero byte, or all of them if there is none. -/
def UpToZero (raw bytes : List UInt8) : Prop := 0 ∉ bytes ∧ (raw = bytes ∨ ∃ rest, raw = bytes ++ 0 :: rest)

variable {raw bytes : List UInt8} {s : String} {n : Int}

theorem upToZero_takeWhile (raw : List UInt8) : UpToZero raw (raw.takeWhile fun b => b ≠ 0) := by
  refine ⟨fun hzero => by simpa using List.mem_takeWhile_imp hzero, ?_⟩
  induction raw with
  | nil => exact .inl rfl
  | cons b raw ih =>
    by_cases hb : b = 0
    · exact .inr ⟨raw, by simp [hb]⟩
    · rw [List.takeWhile_cons_of_pos (by simpa using hb)]
      exact ih.imp (congrArg (b :: ·)) fun ⟨rest, hrest⟩ => ⟨rest, congrArg (b :: ·) hrest⟩

theorem UpToZero.takeWhile_eq (h : UpToZero raw bytes) : (raw.takeWhile fun b => b ≠ 0) = bytes := by
  obtain ⟨hzero, hraw⟩ := h
  have hall : ∀ b ∈ bytes, decide (b ≠ 0) = true := fun b hb => decide_eq_true (ne_of_mem_of_not_mem hb hzero)
  rcases hraw with rfl | ⟨rest, rfl⟩
  · exact List.takeWhile_eq_self_iff.mpr hall
  · rw [List.takeWhile_append_of_pos hall, List.takeWhile_cons_of_neg (by simp), List.append_nil]

theorem toList_toUTF8 (s : String) : s.toUTF8.data.toList = s.toList.flatMap String.utf8EncodeChar := by
  rw [String.toUTF8_eq_toByteArray, ← String.utf8Encode_toList, List.utf8Encode, List.toList_data_toByteArray]

theorem itemText_eq_ok_iff (h : UpToZero raw bytes) : itemText raw = .ok s ↔ s.toUTF8.data.toList = bytes := by
  have hdecode : itemText raw = .ok s ↔ Utf8.decode bytes = .ok s.toList := by
    rw [itemText, h.takeWhile_eq]
    cases Utf8.decode bytes with
    | ok cs => simp [← String.toList_inj]
    | error e => simp
  rw [hdecode, Utf8.decode_eq_ok_iff, toList_toUTF8, eq_comm]

theorem exists_itemText_iff (h : UpToZero raw bytes) :
    (∃ s, itemText raw = .ok s) ↔ bytes.toByteArray.IsValidUTF8 := by
  constructor
  · rintro ⟨s, hs⟩
    rw [← (itemText_eq_ok_iff h).mp hs, toList_toUTF8]
    exact .intro s.toList rfl
  · rintro ⟨cs, hcs⟩
    refine ⟨String.ofList cs, (itemText_eq_ok_iff h).mpr ?_⟩
    have hbytes := congrArg (fun a : ByteArray => a.data.toList) hcs
    simpa [toList_toUTF8, List.utf8Encode] using hbytes.symm

theorem itemNumber_eq_ok_iff :
    itemNumber raw = .ok n ↔
      ∃ s t, itemText raw = .ok s ∧ Stripped s.toList t ∧ Denotes t n ∧ -2 ^ 31 ≤ n ∧ n < 2 ^ 31 := by
  have hnumber : itemNumber raw = .ok n ↔ ∃ s, itemText raw = .ok s ∧ int32? (trim s.toList) = some n := by
    unfold itemNumber
    cases itemText raw with
    | error e => simp
    | ok s => cases h : int32? (trim s.toList) <;> simp [h]
  simp only [hnumber, int32?_eq_some_iff, ← trim_eq_iff, exists_and_left, exists_eq_left']

/-- A text that is no number, or one that does not fit, is refused. -/
theorem itemNumber_eq_error (hs : itemText raw = .ok s) (hnone : ∀ n, itemNumber raw ≠ .ok n) :
    itemNumber raw = .error (.legacyNumber s) := by
  unfold itemNumber at hnone ⊢
  rw [hs] at hnone ⊢
  simp only at hnone ⊢
  cases h : int32? (trim s.toList) with
  | none => rfl
  | some n => exact absurd (by rw [h]) (hnone n)

theorem zero_notMem_toUTF8 (h : Char.ofNat 0 ∉ s.toList) : 0 ∉ s.toUTF8.data.toList := by
  rw [toList_toUTF8, List.mem_flatMap]
  rintro ⟨c, hc, hzero⟩
  exact h (Utf8.zero_mem_encode hzero ▸ hc)

theorem itemText_encoded (h : Char.ofNat 0 ∉ s.toList)
    (hraw : raw = s.toUTF8.data.toList ∨ ∃ rest, raw = s.toUTF8.data.toList ++ 0 :: rest) : itemText raw = .ok s :=
  (itemText_eq_ok_iff ⟨zero_notMem_toUTF8 h, hraw⟩).mpr rfl

/-- The decimal text of an integer among blanks is read as this integer. -/
theorem itemNumber_encoded {before after : String} (hlow : -2 ^ 31 ≤ n) (hhigh : n < 2 ^ 31)
    (hbefore : ∀ c ∈ before.toList, isBlank c = true) (hafter : ∀ c ∈ after.toList, isBlank c = true)
    (hraw : raw = (before ++ toString n ++ after).toUTF8.data.toList ∨
      ∃ rest, raw = (before ++ toString n ++ after).toUTF8.data.toList ++ 0 :: rest) :
    itemNumber raw = .ok n := by
  have hdenotes := denotes_toString n
  have hlist : (before ++ toString n ++ after).toList = before.toList ++ (toString n).toList ++ after.toList := by
    rw [String.toList_append, String.toList_append]
  have hzero : Char.ofNat 0 ∉ (before ++ toString n ++ after).toList := by
    rw [hlist, List.mem_append, List.mem_append]
    rintro ((h | h) | h)
    · exact absurd (hbefore _ h) (by decide)
    · rcases mem_of_denotes hdenotes h with h | h | h <;> exact absurd h (by decide)
    · exact absurd (hafter _ h) (by decide)
  refine itemNumber_eq_ok_iff.mpr ⟨_, (toString n).toList, itemText_encoded hzero hraw, ?_, hdenotes, hlow, hhigh⟩
  rw [hlist]
  exact stripped_of_denotes hdenotes hbefore hafter

/-- What can be relied on when a setting is read, of which `bytes` stand before the first zero byte. -/
structure ReadsExactly (raw bytes : List UInt8) : Prop where
  text : ∀ s, itemText raw = .ok s ↔ s.toUTF8.data.toList = bytes
  readable : (∃ s, itemText raw = .ok s) ↔ bytes.toByteArray.IsValidUTF8
  number : ∀ n, itemNumber raw = .ok n ↔
    ∃ s t, itemText raw = .ok s ∧ Stripped s.toList t ∧ Denotes t n ∧ -2 ^ 31 ≤ n ∧ n < 2 ^ 31
  /-- An integer that does not fit is neither cut off nor wrapped. -/
  misfit : ∀ s t n, itemText raw = .ok s → Stripped s.toList t → Denotes t n → ¬(-2 ^ 31 ≤ n ∧ n < 2 ^ 31) →
    itemNumber raw = .error (.legacyNumber s)

theorem readsExactly (h : UpToZero raw bytes) : ReadsExactly raw bytes where
  text _ := itemText_eq_ok_iff h
  readable := exists_itemText_iff h
  number _ := itemNumber_eq_ok_iff
  misfit s t n hs ht hn hmisfit := by
    refine itemNumber_eq_error hs fun m hm => hmisfit ?_
    obtain ⟨s', t', hs', ht', hm', hfits⟩ := itemNumber_eq_ok_iff.mp hm
    obtain rfl : s' = s := Except.ok.inj (hs'.symm.trans hs)
    obtain rfl : t' = t := (trim_eq_iff.mpr ht').symm.trans (trim_eq_iff.mpr ht)
    obtain rfl : m = n := Option.some.inj ((int?_eq_some_of_denotes hm').symm.trans (int?_eq_some_of_denotes hn))
    exact hfits

/-- Whatever the bytes of a setting are: those before the first zero byte are read as the text that they encode, if
    they encode one, and as the integer that this text stands for but for blanks around it, if the integer fits
    32 bits. So the decimal text of every such integer is read as the integer, among any blanks and with any
    bytes after the zero byte. -/
theorem items_read :
    (∀ raw, ∃ bytes, UpToZero raw bytes ∧ ReadsExactly raw bytes) ∧
    ∀ (n : Int) (before after : String), -2 ^ 31 ≤ n → n < 2 ^ 31 →
      (∀ c ∈ before.toList, isBlank c = true) → (∀ c ∈ after.toList, isBlank c = true) →
      let bytes := (before ++ toString n ++ after).toUTF8.data.toList
      itemNumber bytes = .ok n ∧ ∀ trailing, itemNumber (bytes ++ 0 :: trailing) = .ok n := by
  refine ⟨fun raw => ⟨_, upToZero_takeWhile raw, readsExactly (upToZero_takeWhile raw)⟩, ?_⟩
  intro n before after hlow hhigh hbefore hafter bytes
  exact ⟨itemNumber_encoded hlow hhigh hbefore hafter (.inl rfl),
    fun trailing => itemNumber_encoded hlow hhigh hbefore hafter (.inr ⟨trailing, rfl⟩)⟩

/-- The least integer is read, before bytes that are no text; the one after the greatest is refused. -/
theorem extremes_read :
    let bytes := ("\t" ++ toString (-2147483648 : Int) ++ " ").toUTF8.data.toList
    bytes = [9, 45, 50, 49, 52, 55, 52, 56, 51, 54, 52, 56, 32] ∧
    itemNumber (bytes ++ [0, 0xFF, 0xFE]) = .ok (-2147483648) ∧
    itemNumber "2147483648".toUTF8.data.toList = .error (.legacyNumber "2147483648") := by
  obtain ⟨hreads, hencoded⟩ := items_read
  have hdenotes : Denotes "2147483648".toList 2147483648 := int?_eq_some_iff.mp (by decide +kernel)
  obtain ⟨bytes, -, hexact⟩ := hreads "2147483648".toUTF8.data.toList
  have hbefore : ∀ c ∈ "\t".toList, isBlank c = true := List.all_eq_true.mp (by decide)
  have hafter : ∀ c ∈ " ".toList, isBlank c = true := List.all_eq_true.mp (by decide)
  refine ⟨by decide +kernel, ?_, ?_⟩
  · exact (hencoded (-2147483648) "\t" " " (by decide) (by decide) hbefore hafter).2 [0xFF, 0xFE]
  · exact hexact.misfit _ _ _ (by decide +kernel) (stripped_trim _) hdenotes (by decide)

end Legacy

end Connectivity
