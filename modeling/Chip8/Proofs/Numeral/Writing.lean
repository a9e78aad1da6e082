import Chip8.Numeral.Reading

/-!
# What is written for a number

A number is written as a row of digits that stands for it, most significant first, and zeros before the digits do not
count. A row has at most so many digits if the number is below that power of the base, and a power of the base has more
digits than its exponent.

Main statements: `natChars_spells`, `hex_spells`, `natChars_length_le`, `lt_natChars_pow_length`.
-/

namespace Chip8.Numeral

variable {base d k n : Nat} {row : List Nat}

/-! ## The value of a row -/

theorem ofRow_concat : ofRow base (row ++ [d]) = ofRow base row * base + d := by
  rw [ofRow, List.foldl_append]
  rfl

theorem ofRow_reverse (ds : List Nat) : ofRow base ds.reverse = ofDigits base ds := by
  induction ds with
  | nil => rfl
  | cons d ds ih => rw [List.reverse_cons, ofRow_concat, ih, ofDigits, Nat.mul_comm, Nat.add_comm]

theorem ofRow_zeros (k : Nat) : ofRow base (List.replicate k 0 ++ row) = ofRow base row := by
  induction k with
  | zero => rfl
  | succ k ih =>
    rw [List.replicate_succ, List.cons_append, ofRow, List.foldl_cons, Nat.zero_mul, Nat.zero_add]
    exact ih

/-! ## The row of a numeral -/

/-- The row of digits stands for the number in the base. -/
structure Spells (base : Nat) (row : List Nat) (n : Nat) : Prop where
  ne_nil : row ≠ []
  digits : ∀ d ∈ row, d < base
  value : ofRow base row = n

theorem Spells.zeros (h : Spells base row n) (hb : 2 ≤ base) (k : Nat) :
    Spells base (List.replicate k 0 ++ row) n where
  ne_nil := List.append_ne_nil_of_right_ne_nil _ h.ne_nil
  digits := by
    intro d hd
    rcases List.mem_append.mp hd with hd | hd
    · rw [List.eq_of_mem_replicate hd]
      omega
    · exact h.digits d hd
  value := by rw [ofRow_zeros, h.value]

/-- The characters of a number are digits that stand for it. -/
theorem natChars_spells (hb : 2 ≤ base) (n : Nat) :
    ∃ row, natChars base n = row.map digitChar ∧ Spells base row n := by
  unfold natChars
  split
  · next h =>
    subst h
    exact ⟨[0], rfl, by simp, by simp; omega, by simp [ofRow]⟩
  · next h =>
    refine ⟨(digits base n).reverse, List.map_reverse.symm, ?_, fun d hd => ?_, ?_⟩
    · rw [digits, dif_neg (by omega)]
      simp
    · exact lt_of_mem_digits hb (List.mem_reverse.mp hd)
    · rw [ofRow_reverse, ofDigits_digits hb]

/-- A hexadecimal numeral is a sign, if the integer is negative, and digits that stand for its absolute value. -/
theorem hex_spells (width : Nat) (n : Int) : ∃ row, Spells 16 row n.natAbs
    ∧ (hex width n).toList = (if n < 0 then ['-'] else []) ++ row.map digitChar := by
  have hbase : 2 ≤ 16 := by decide
  obtain ⟨row, hrow, hspells⟩ := natChars_spells hbase n.natAbs
  let sign := if n < 0 then "-" else ""
  refine ⟨_, hspells.zeros hbase (width - (sign ++ "").length - (natChars 16 n.natAbs).length), ?_⟩
  have hwrite : (hex width n).toList = (sign ++ "").toList
      ++ (List.replicate (width - (sign ++ "").length - (natChars 16 n.natAbs).length) '0' ++ natChars 16 n.natAbs) :=
    (String.toList_append ..).trans (congrArg _ String.toList_ofList)
  have hsign : (sign ++ "").toList = if n < 0 then ['-'] else [] := by
    by_cases h : n < 0 <;> simp [sign, h]
  rw [hwrite, hsign, List.map_append, List.map_replicate, ← hrow]
  rfl

/-- A decimal numeral is a sign, if the integer is negative, and the digits of its absolute value. -/
theorem decimal_toList (n : Int) :
    (decimal n).toList = (if n < 0 then ['-'] else []) ++ (natChars 10 n.natAbs).map Char.toLower := by
  have hsign : (if n < 0 then "-" else "").toList = if n < 0 then ['-'] else [] := by split <;> rfl
  simp [decimal, Format.write, hsign]

/-! ## The length of a numeral -/

theorem digits_length_le (hn : n < Nat.pow base k) : (digits base n).length ≤ k := by
  induction k generalizing n with
  | zero =>
    have hzero : n = 0 := by simpa using hn
    rw [digits, dif_pos (.inr hzero)]
    exact Nat.zero_le _
  | succ k ih =>
    rw [digits]
    split
    · exact Nat.zero_le _
    · rw [List.length_cons]
      apply Nat.succ_le_succ
      apply ih
      have hdigits : n < base * Nat.pow base k := Nat.mul_comm _ _ ▸ hn
      exact Nat.div_lt_of_lt_mul hdigits

theorem natChars_length_le (hk : 0 < k) (hn : n < Nat.pow base k) : (natChars base n).length ≤ k := by
  unfold natChars
  split
  · exact hk
  · rw [List.length_reverse, List.length_map]
    exact digits_length_le hn

theorem lt_pow_digits_length (hb : 2 ≤ base) (n : Nat) : n < Nat.pow base (digits base n).length := by
  fun_induction digits base n with
  | case1 n h =>
    have hzero : n = 0 := by omega
    exact hzero ▸ Nat.one_pos
  | case2 n h ih =>
    exact (Nat.div_lt_iff_lt_mul (by omega)).mp ih

/-- A power of the base has more digits than its exponent. -/
theorem lt_natChars_pow_length (hb : 2 ≤ base) (k : Nat) : k < (natChars base (Nat.pow base k)).length := by
  have hpos : 0 < Nat.pow base k := Nat.pow_pos (by omega)
  unfold natChars
  rw [if_neg (by omega), List.length_reverse, List.length_map]
  exact (Nat.pow_lt_pow_iff_right hb).mp (lt_pow_digits_length hb (Nat.pow base k))

theorem hex_length {width : Nat} (hwidth : 0 < width) (hn : n < Nat.pow 16 width) :
    (hex width n).toList.length = width := by
  have hlength := natChars_length_le hwidth hn
  have hsign : ¬(n : Int) < 0 := by omega
  simp [hex, Format.write, hsign]
  omega

/-! ## Digits as characters -/

theorem digitValue?_digitChar (h : d < 16) : digitValue? 16 (digitChar d) = some d := by
  have hall : ∀ d : Fin 16, digitValue? 16 (digitChar d) = some d.val := by decide +kernel
  exact hall ⟨d, h⟩

end Chip8.Numeral
