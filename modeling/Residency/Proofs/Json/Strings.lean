import Residency.Json.Printer
import Residency.Json.Reader
import Residency.Proofs.Lists
import Residency.Proofs.Outcomes

namespace Residency

theorem Text.hex_four {n : ℕ} (h : n < 0x10000) :
    Text.hex 4 n = [Nat.digitChar (n / 4096), Nat.digitChar (n / 256 % 16),
      Nat.digitChar (n / 16 % 16), Nat.digitChar (n % 16)] := by
  have step : ∀ m, Nat.toDigits 16 m =
      if m < 16 then [m.digitChar] else Nat.toDigits 16 (m / 16) ++ [(m % 16).digitChar] :=
    fun m => Nat.toDigits_eq_if (by decide)
  have h0 : ∀ m, m = 0 → m.digitChar = '0' := by
    rintro m rfl
    rfl
  rw [Text.hex, step n]
  by_cases h1 : n < 16
  · rw [if_pos h1, h0 (n / 4096) (by omega), h0 (n / 256 % 16) (by omega),
      h0 (n / 16 % 16) (by omega), Nat.mod_eq_of_lt h1]
    rfl
  · rw [if_neg h1, step (n / 16)]
    by_cases h2 : n / 16 < 16
    · rw [if_pos h2, h0 (n / 4096) (by omega), h0 (n / 256 % 16) (by omega),
        Nat.mod_eq_of_lt h2]
      rfl
    · rw [if_neg h2, step (n / 16 / 16), Nat.div_div_eq_div_mul]
      by_cases h3 : n / 256 < 16
      · rw [if_pos h3, h0 (n / 4096) (by omega), Nat.mod_eq_of_lt h3]
        rfl
      · rw [if_neg h3, Nat.div_div_eq_div_mul, Nat.toDigits_of_lt_base (by omega)]
        rfl

namespace Json

theorem hexDigit?_digitChar {d : ℕ} (h : d < 16) : hexDigit? d.digitChar = some d := by
  have hall : ∀ d < 16, hexDigit? d.digitChar = some d := by decide
  exact hall d h

theorem hexUnit?_hex {n : ℕ} (h : n < 0x10000) : hexUnit? (Text.hex 4 n) = some n := by
  rw [Text.hex_four h, hexUnit?, hexDigit?_digitChar (by omega), hexDigit?_digitChar (by omega),
    hexDigit?_digitChar (by omega), hexDigit?_digitChar (by omega)]
  change some (((n / 4096 * 16 + n / 256 % 16) * 16 + n / 16 % 16) * 16 + n % 16) = some n
  congr 1
  omega

theorem length_hex {n : ℕ} (h : n < 0x10000) : (Text.hex 4 n).length = 4 := by
  rw [Text.hex_four h]
  rfl

theorem readUnit_hex {n : ℕ} (h : n < 0x10000) {r : List Char} (hr : r ≠ []) :
    readUnit (Text.hex 4 n ++ r) = .ok (n, r) := by
  have hlen : ¬ ((Text.hex 4 n ++ r).take 5).length < 5 := by
    have := List.length_pos_iff.mpr hr
    rw [List.length_take, List.length_append, length_hex h]
    omega
  rw [readUnit, if_neg hlen, List.take_left' (length_hex h), List.drop_left' (length_hex h),
    hexUnit?_hex h]

theorem toNat_lt (c : Char) : c.toNat < 0x110000 := by
  rcases c.valid with h | h
  · exact Nat.lt_trans h (by decide)
  · exact h.2

theorem not_surrogate (c : Char) :
    isHighSurrogate c.toNat = false ∧ isLowSurrogate c.toNat = false := by
  have h : c.toNat < 0xD800 ∨ 0xDFFF < c.toNat := c.valid.imp id And.left
  simp only [isHighSurrogate, isLowSurrogate, Bool.and_eq_false_iff, decide_eq_false_iff_not]
  omega

theorem surrogates_spec {c : Char} (h : 0x10000 ≤ c.toNat) :
    isHighSurrogate (0xD800 + (c.toNat - 0x10000) / 0x400) = true ∧
      isLowSurrogate (0xDC00 + (c.toNat - 0x10000) % 0x400) = true ∧
      Char.ofNat (0x10000 + (0xD800 + (c.toNat - 0x10000) / 0x400 - 0xD800) * 0x400 +
        (0xDC00 + (c.toNat - 0x10000) % 0x400 - 0xDC00)) = c := by
  have hc := toNat_lt c
  simp only [isHighSurrogate, isLowSurrogate, Bool.and_eq_true, decide_eq_true_eq]
  refine ⟨by omega, by omega, ?_⟩
  have hvalue : 0x10000 + (0xD800 + (c.toNat - 0x10000) / 0x400 - 0xD800) * 0x400 +
      (0xDC00 + (c.toNat - 0x10000) % 0x400 - 0xDC00) = c.toNat := by omega
  rw [hvalue, Char.ofNat_toNat]

theorem readUnicodeEscape_unit {c : Char} (h : c.toNat < 0x10000) {r : List Char} (hr : r ≠ []) :
    readUnicodeEscape (Text.hex 4 c.toNat ++ r) = .ok (c, r) := by
  obtain ⟨hhigh, hlow⟩ := not_surrogate c
  rw [readUnicodeEscape, readUnit_hex h hr, ok_bind]
  dsimp only
  rw [hhigh, unitChar, hhigh, hlow, Bool.or_false, if_neg Bool.false_ne_true, Char.ofNat_toNat]

theorem readUnicodeEscape_pair {high low : ℕ} (hhigh : isHighSurrogate high = true)
    (hlow : isLowSurrogate low = true) {r : List Char} (hr : r ≠ []) :
    readUnicodeEscape (Text.hex 4 high ++ (unitEscape low ++ r)) =
      .ok (Char.ofNat (0x10000 + (high - 0xD800) * 0x400 + (low - 0xDC00)), r) := by
  have hfirst : high < 0x10000 := by
    simp only [isHighSurrogate, Bool.and_eq_true, decide_eq_true_eq] at hhigh
    omega
  have hsecond : low < 0x10000 := by
    simp only [isLowSurrogate, Bool.and_eq_true, decide_eq_true_eq] at hlow
    omega
  have hlen : ¬ ((Text.hex 4 low ++ r).take 5).length < 5 := by
    have := List.length_pos_iff.mpr hr
    rw [List.length_take, List.length_append, length_hex hsecond]
    omega
  rw [readUnicodeEscape, unitEscape, List.cons_append, List.cons_append,
    readUnit_hex hfirst (List.cons_ne_nil _ _), ok_bind]
  dsimp only
  rw [hhigh]
  change (if _ then _ else _) = _
  rw [if_neg hlen, readUnit_hex hsecond hr, ok_bind]
  dsimp only
  rw [if_pos hlow]

theorem readString_quote (start fuel : ℕ) (r : List Char) :
    readString start (fuel + 1) ('"' :: r) = .ok ([], r) := by
  rw [readString.eq_def]
  dsimp only
  rw [if_pos rfl]

theorem readString_plain (start fuel : ℕ) {c : Char} (hquote : c ≠ '"') (hbackslash : c ≠ '\\')
    (hcontrol : ¬ c.toNat < 0x20) (r : List Char) : readString start (fuel + 1) (c :: r) =
      (readString start fuel r).map fun (ds, r) => (c :: ds, r) := by
  rw [readString.eq_def]
  dsimp only
  rw [if_neg hquote, if_neg hbackslash, if_neg hcontrol]

theorem readString_escape (start fuel : ℕ) {e d : Char} (h : escaped? e = some d)
    (r : List Char) : readString start (fuel + 1) ('\\' :: e :: r) =
      (readString start fuel r).map fun (ds, r) => (d :: ds, r) := by
  have hu : e ≠ 'u' := by
    rintro rfl
    cases h
  rw [readString, if_neg (by decide), if_pos rfl, h]
  exact hu

theorem readString_unicodeEscape (start fuel : ℕ) {t r : List Char} {c : Char}
    (h : readUnicodeEscape t = .ok (c, r)) : readString start (fuel + 1) ('\\' :: 'u' :: t) =
      (readString start fuel r).map fun (ds, r) => (c :: ds, r) := by
  rw [readString, if_neg (by decide), if_pos rfl]
  dsimp only
  rw [h, ok_bind]

theorem readString_escapeChar (start fuel : ℕ) (c : Char) {r : List Char} (hr : r ≠ []) :
    readString start (fuel + 1) (escapeChar c ++ r) =
      (readString start fuel r).map fun (ds, r) => (c :: ds, r) := by
  rw [escapeChar]
  split_ifs with hquote hbackslash hfeed hreturn htab hbackspace hform hplain
  · subst hquote
    exact readString_escape start fuel rfl r
  · subst hbackslash
    exact readString_escape start fuel rfl r
  · subst hfeed
    exact readString_escape start fuel rfl r
  · subst hreturn
    exact readString_escape start fuel rfl r
  · subst htab
    exact readString_escape start fuel rfl r
  · subst hbackspace
    exact readString_escape start fuel rfl r
  · subst hform
    exact readString_escape start fuel rfl r
  · have hcontrol : ¬ c.toNat < 0x20 := Nat.not_lt.mpr hplain.1
    exact readString_plain start fuel hquote hbackslash hcontrol r
  · dsimp only
    split_ifs with hplane
    · exact readString_unicodeEscape start fuel (readUnicodeEscape_unit hplane hr)
    · obtain ⟨hhigh, hlow, hvalue⟩ := surrogates_spec (Nat.not_lt.mp hplane)
      have hpair := readUnicodeEscape_pair hhigh hlow hr
      rw [hvalue] at hpair
      rw [unitEscape, List.append_assoc, List.cons_append, List.cons_append]
      rw [readString_unicodeEscape start fuel hpair]

theorem readString_text (start : ℕ) {fuel : ℕ} (cs r : List Char) (h : cs.length < fuel) :
    readString start fuel (cs.flatMap escapeChar ++ '"' :: r) = .ok (cs, r) := by
  induction cs generalizing fuel with
  | nil =>
    obtain ⟨fuel, rfl⟩ := Nat.exists_eq_add_one.mpr h
    exact readString_quote start fuel r
  | cons c cs ih =>
    rw [List.length_cons] at h
    obtain ⟨fuel, rfl⟩ := Nat.exists_eq_add_one.mpr (Nat.zero_lt_of_lt h)
    rw [List.flatMap_cons, List.append_assoc, readString_escapeChar start fuel c (by simp),
      ih (by omega)]
    rfl

theorem escapeChar_ne_nil (c : Char) : escapeChar c ≠ [] := by
  unfold escapeChar
  dsimp only
  split_ifs <;> exact List.cons_ne_nil _ _

theorem readQuoted_stringText (s : String) (r : List Char) :
    readQuoted (stringText s ++ r) = .ok (s, r) := by
  have htail : (stringText s ++ r).tail = s.toList.flatMap escapeChar ++ '"' :: r := by
    simp [stringText]
  have hlen : s.toList.length < (stringText s ++ r).length := by
    have := length_le_flatMap escapeChar_ne_nil s.toList
    simp only [stringText, List.cons_append, List.length_cons, List.length_append]
    omega
  rw [readQuoted, htail, readString_text _ _ _ hlen]
  change Except.ok (String.ofList s.toList, r) = _
  rw [String.ofList_toList]

end Json

end Residency
