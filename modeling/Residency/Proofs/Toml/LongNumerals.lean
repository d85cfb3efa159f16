import Residency.Proofs.Toml.Values

namespace Residency.Toml

def sixteenText (n : ℕ) : List Char :=
  '0' :: 'x' :: '1' :: List.replicate n '0'

theorem digitsAfter?_zeros (n : ℕ) :
    digitsAfter? 16 true (List.replicate n '0') = some (List.replicate n 0) := by
  induction n with
  | zero => rfl
  | succ n ih =>
    rw [List.replicate_succ, digitsAfter?, if_neg (by decide)]
    change (digitsAfter? 16 true (List.replicate n '0')).map _ = _
    rw [ih]
    rfl

theorem ofDigits_one_zeros (base n : ℕ) : ofDigits base (1 :: List.replicate n 0) = base ^ n := by
  have hfold : ∀ m, (List.replicate n 0).foldl (fun m d => base * m + d) m = m * base ^ n := by
    induction n with
    | zero => simp
    | succ n ih =>
      intro m
      rw [List.replicate_succ, List.foldl_cons, ih]
      ring
  rw [ofDigits, List.foldl_cons, hfold]
  simp

theorem number?_sixteenText (n : ℕ) : number? (sixteenText n) = some (.int (16 ^ n)) := by
  change (digits? 16 ('1' :: List.replicate n '0')).map _ = _
  rw [digits?, digitsAfter?, if_neg (by decide)]
  change ((digitsAfter? 16 true (List.replicate n '0')).map _).map _ = _
  rw [digitsAfter?_zeros]
  change some (Toml.int (ofDigits 16 (1 :: List.replicate n 0))) = _
  rw [ofDigits_one_zeros, Nat.cast_pow]
  rfl

theorem readValue_sixteenText (n depth : ℕ) (r : List Char) :
    readValue depth (sixteenText n ++ '\n' :: r) = some (.int (16 ^ n), '\n' :: r) := by
  have hmoment : moment? (sixteenText n) = none := rfl
  have hrun : (sixteenText n ++ '\n' :: r).takeWhile (!endsRun ·) = sixteenText n := by
    refine takeWhile_append_cons (fun c hc => ?_) (by decide) r
    rw [sixteenText, List.mem_cons, List.mem_cons, List.mem_cons, List.mem_replicate] at hc
    rcases hc with rfl | rfl | rfl | ⟨-, rfl⟩ <;> decide
  have hplain : readValue depth (sixteenText n ++ '\n' :: r) =
      readRun (sixteenText n ++ '\n' :: r) := by
    rw [sixteenText, List.cons_append, readValue_eq_readPlain (by decide),
      readPlain_eq_readRun (by decide)]
  rw [hplain]
  simp only [readRun, hrun, List.drop_left, hmoment, number?_sixteenText, Option.map_some]

theorem isWritable_sixteen_pow {m n : ℕ} (hm : Number.maxDigits ≤ 7 * m) (hn : 6 * m ≤ n) :
    Number.isWritable (16 ^ n) = false := by
  rw [Bool.eq_false_iff, ne_eq, Number.isWritable_iff, not_lt]
  calc 10 ^ Number.maxDigits ≤ 10 ^ (7 * m) := Nat.pow_le_pow_right (by decide) hm
    _ = (10 ^ 7) ^ m := Nat.pow_mul 10 7 m
    _ ≤ (16 ^ 6) ^ m := Nat.pow_le_pow_left (by decide) m
    _ = 16 ^ (6 * m) := (Nat.pow_mul 16 6 m).symm
    _ ≤ 16 ^ n := Nat.pow_le_pow_right (by decide) hn
    _ = ((16 : ℤ) ^ n).natAbs := (Int.natAbs_pow 16 n).symm

end Residency.Toml
