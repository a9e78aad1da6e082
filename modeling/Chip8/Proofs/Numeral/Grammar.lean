import Chip8.Proofs.Numeral.Writing
import Mathlib.Data.List.TakeWhile

/-!
# The grammar of numerals

A numeral is a text in layers: blanks around it (`Written`), a sign (`Signed`), the lead of the base (`Lead`), and a row
of digits with at most one underscore between two of them (`Row`). A text is read as an integer if and only if it is a
numeral of that integer. No part of a layer can be taken for a part of another one: a digit is no blank, no sign and no
underscore, and the letter of a lead is no digit of its base. What is written for a number is a numeral of it, so it is
read back.

Main statements: `digitRow?_eq_some_iff`, `readNat?_eq_some_iff`, `readInt?_eq_some_iff`, `unsigned_of_natChars`,
`readInt?_hex`.
-/

namespace Chip8.Numeral

open Text

variable {base d n : Nat} {c : Char} {s cs core left right : List Char} {row : List Nat}

/-! ## The layers -/

/-- A row of digits, and their values: a digit, or a digit and, perhaps after an underscore, a row. -/
inductive Row (base : Nat) : List Char → List Nat → Prop where
  | last {c : Char} {d : Nat} (hd : digitValue? base c = some d) : Row base [c] [d]
  | digit {c : Char} {d : Nat} {cs : List Char} {row : List Nat} (hd : digitValue? base c = some d)
    (hrest : Row base cs row) : Row base (c :: cs) (d :: row)
  | underscore {c : Char} {d : Nat} {cs : List Char} {row : List Nat} (hd : digitValue? base c = some d)
    (hrest : Row base cs row) : Row base (c :: '_' :: cs) (d :: row)

/-- The lead of a base: a zero and the letter of the base, perhaps with an underscore after it, or nothing at all. -/
inductive Lead (base : Nat) : List Char → Prop where
  | none : Lead base []
  | letter {zero letter : Char} (hzero : decimalValue? zero = some 0)
    (hletter : leadLetter? base = some letter.toLower) : Lead base [zero, letter]
  | underscore {zero letter : Char} (hzero : decimalValue? zero = some 0)
    (hletter : leadLetter? base = some letter.toLower) : Lead base [zero, letter, '_']

/-- A numeral without sign: a lead and a row of digits, in base ten not too many. -/
inductive Unsigned (base : Nat) : List Char → Nat → Prop where
  | mk {lead cs : List Char} {row : List Nat} (hlead : Lead base lead) (hrow : Row base cs row)
    (hshort : base = 10 → row.length ≤ maxDecimalDigits) : Unsigned base (lead ++ cs) (ofRow base row)

/-- A numeral without blanks around it. -/
inductive Signed (base : Nat) : List Char → Int → Prop where
  | plain {s : List Char} {n : Nat} (h : Unsigned base s n) : Signed base s n
  | plus {s : List Char} {n : Nat} (h : Unsigned base s n) : Signed base ('+' :: s) n
  | minus {s : List Char} {n : Nat} (h : Unsigned base s n) : Signed base ('-' :: s) (-n)

/-- A numeral of an integer. -/
inductive Written (base : Nat) : List Char → Int → Prop where
  | mk {left core right : List Char} {n : Int} (hleft : ∀ c ∈ left, isBlank c = true) (h : Signed base core n)
    (hright : ∀ c ∈ right, isBlank c = true) : Written base (left ++ core ++ right) n

/-! ## Characters of the layers -/

/-- The code points of the blanks. -/
def blanks : List Nat :=
  [0x09, 0x0a, 0x0b, 0x0c, 0x0d, 0x20, 0x85, 0xa0, 0x1680, 0x2000, 0x2001, 0x2002, 0x2003, 0x2004, 0x2005, 0x2006,
    0x2007, 0x2008, 0x2009, 0x200a, 0x2028, 0x2029, 0x202f, 0x205f, 0x3000]

theorem mem_blanks (h : isBlank c = true) : c.toNat ∈ blanks := by
  simp only [isBlank, Bool.or_eq_true, Bool.and_eq_true, decide_eq_true_eq] at h
  simp only [blanks, List.mem_cons, List.not_mem_nil, or_false]
  omega

theorem isBlank_of_decimalValue? (h : decimalValue? c = some d) : isBlank c = false := by
  -- both tables are finite: no blank stands in the ten places from a zero
  have hapart : ∀ z ∈ zeros, ∀ n ∈ blanks, ¬(z ≤ n ∧ n < z + 10) := by decide +kernel
  obtain ⟨z, hz, -⟩ := Option.map_eq_some_iff.mp h
  have hin := List.find?_some hz
  simp only [decide_eq_true_eq] at hin
  refine Bool.eq_false_iff.mpr fun hblank => ?_
  exact hapart z (List.mem_of_find?_eq_some hz) _ (mem_blanks hblank) hin

/-- A character that stands in a numeral by itself, and not as blank, sign or underscore. -/
structure Plain (c : Char) : Prop where
  blank : isBlank c = false
  minus : c ≠ '-'
  plus : c ≠ '+'
  underscore : c ≠ '_'

theorem plain_of_decimalValue? (h : decimalValue? c = some d) : Plain c := by
  have hnone : decimalValue? '-' = none ∧ decimalValue? '+' = none ∧ decimalValue? '_' = none := by decide +kernel
  refine ⟨isBlank_of_decimalValue? h, ?_, ?_, ?_⟩
  all_goals
    rintro rfl
    simp [hnone] at h

theorem plain_of_letter (h : 'a' ≤ c ∧ c ≤ 'z' ∨ 'A' ≤ c ∧ c ≤ 'Z') : Plain c := by
  have hcode : 97 ≤ c.toNat ∧ c.toNat ≤ 122 ∨ 65 ≤ c.toNat ∧ c.toNat ≤ 90 := h
  refine ⟨Bool.eq_false_iff.mpr fun hblank => ?_, ?_, ?_, ?_⟩
  · have hapart : ∀ n ∈ blanks, ¬(97 ≤ n ∧ n ≤ 122 ∨ 65 ≤ n ∧ n ≤ 90) := by decide
    exact hapart _ (mem_blanks hblank) hcode
  all_goals
    rintro rfl
    exact absurd hcode (by decide)

theorem plain_of_digitValue? (h : digitValue? base c = some d) : Plain c := by
  obtain ⟨h, -⟩ := Option.filter_eq_some_iff.mp h
  split at h
  · next hsmall => exact plain_of_letter (.inl hsmall)
  · split at h
    · next hcapital => exact plain_of_letter (.inr hcapital)
    · exact plain_of_decimalValue? h

/-! ## Rows of digits -/

theorem Row.ne_nil (h : Row base cs row) : cs ≠ [] := by
  cases h <;> exact List.cons_ne_nil _ _

theorem Row.head (h : Row base (c :: cs) row) : ∃ d, digitValue? base c = some d := by
  cases h with
  | last hd => exact ⟨_, hd⟩
  | digit hd hrest => exact ⟨_, hd⟩
  | underscore hd hrest => exact ⟨_, hd⟩

/-- A text is read as a row of digits if and only if it is one. -/
theorem digitRow?_eq_some_iff : digitRow? base cs = some row ↔ Row base cs row := by
  constructor
  · intro h
    fun_induction digitRow? base cs generalizing row with
    | case1 => cases h
    | case2 c =>
      obtain ⟨d, hd, rfl⟩ := Option.map_eq_some_iff.mp h
      exact .last hd
    | case3 c rest ih =>
      obtain ⟨d, hd, h⟩ := Option.bind_eq_some_iff.mp h
      obtain ⟨ds, hds, h⟩ := Option.bind_eq_some_iff.mp h
      cases h
      exact .underscore hd (ih hds)
    | case4 c rest _ _ ih =>
      obtain ⟨d, hd, h⟩ := Option.bind_eq_some_iff.mp h
      obtain ⟨ds, hds, h⟩ := Option.bind_eq_some_iff.mp h
      cases h
      exact .digit hd (ih hds)
  · intro h
    induction h with
    | last hd => rw [digitRow?, hd]; rfl
    | underscore hd hrest ih => rw [digitRow?, hd, ih]; rfl
    | digit hd hrest ih =>
      -- the rest starts with a digit, so that is no underscore
      rw [digitRow?, hd, ih]
      · rfl
      · exact fun hnil => hrest.ne_nil hnil
      · rintro rest rfl
        obtain ⟨e, he⟩ := hrest.head
        exact (plain_of_digitValue? he).underscore rfl

/-! ## The letters of leads -/

theorem toLower_of_capital (h : 'A' ≤ c ∧ c ≤ 'Z') : c.toLower.toNat = c.toNat + 32 := by
  have hcode : 65 ≤ c.toNat ∧ c.toNat ≤ 90 := h
  have hlower : c.toLower.val = c.val + 32 := congrArg Char.val (dif_pos h)
  have hnat : c.toLower.toNat = (c.toNat + 32) % 2 ^ 32 := (congrArg UInt32.toNat hlower).trans (UInt32.toNat_add ..)
  omega

theorem toLower_of_not_capital (h : ¬('A' ≤ c ∧ c ≤ 'Z')) : c.toLower = c := dif_neg h

theorem digitValue?_toLower : digitValue? base c.toLower = digitValue? base c := by
  by_cases hcapital : 'A' ≤ c ∧ c ≤ 'Z'
  · have hcode : 65 ≤ c.toNat ∧ c.toNat ≤ 90 := hcapital
    have hlower := toLower_of_capital hcapital
    have hsmall : 'a' ≤ c.toLower ∧ c.toLower ≤ 'z' := by
      change 97 ≤ c.toLower.toNat ∧ c.toLower.toNat ≤ 122
      omega
    have hnot : ¬('a' ≤ c ∧ c ≤ 'z') := by
      change ¬(97 ≤ c.toNat ∧ c.toNat ≤ 122)
      omega
    unfold digitValue?
    rw [if_pos hsmall, if_neg hnot, if_pos hcapital, hlower]
    rfl
  · rw [toLower_of_not_capital hcapital]

theorem plain_of_leadLetter? (h : leadLetter? base = some c.toLower) : Plain c ∧ digitValue? base c = none := by
  have hletters : ∀ l, leadLetter? base = some l → ('a' ≤ l ∧ l ≤ 'z') ∧ digitValue? base l = none := by
    intro l hl
    unfold leadLetter? at hl
    split at hl
    all_goals
      cases hl
      try decide +kernel
  obtain ⟨hsmall, hdigit⟩ := hletters _ h
  refine ⟨?_, digitValue?_toLower ▸ hdigit⟩
  -- the small form of the letter is known, so the letter is that or the capital one
  by_cases hcapital : 'A' ≤ c ∧ c ≤ 'Z'
  · exact plain_of_letter (.inr hcapital)
  · rw [toLower_of_not_capital hcapital] at hsmall
    exact plain_of_letter (.inl hsmall)

/-! ## Numerals without sign -/

theorem exists_lead (base : Nat) (s : List Char) : ∃ lead, Lead base lead ∧ s = lead ++ dropLead base s := by
  unfold dropLead
  split
  · next zero letter rest =>
    split
    · next h =>
      split
      · exact ⟨_, .underscore h.1 h.2, rfl⟩
      · exact ⟨_, .letter h.1 h.2, rfl⟩
    · exact ⟨[], .none, rfl⟩
  · exact ⟨[], .none, rfl⟩

theorem dropLead_of_row (h : Row base s row) : dropLead base s = s := by
  unfold dropLead
  split
  · next zero letter rest =>
    refine if_neg fun hlead => ?_
    obtain ⟨hplain, hdigit⟩ := plain_of_leadLetter? hlead.2
    cases h with
    | digit hd hrest =>
      obtain ⟨e, he⟩ := hrest.head
      cases hdigit.symm.trans he
    | underscore hd hrest => exact hplain.underscore rfl
  · rfl

theorem dropLead_append (hlead : Lead base left) (hrow : Row base cs row) : dropLead base (left ++ cs) = cs := by
  cases hlead with
  | none => exact dropLead_of_row hrow
  | letter hzero hletter =>
    rw [List.cons_append, List.cons_append, List.nil_append, dropLead, if_pos ⟨hzero, hletter⟩]
    -- the row does not start with an underscore
    rintro rest rfl
    obtain ⟨d, hd⟩ := hrow.head
    exact (plain_of_digitValue? hd).underscore rfl
  | underscore hzero hletter => exact if_pos ⟨hzero, hletter⟩

theorem readNat?_eq_some_iff : readNat? base s = some n ↔ Unsigned base s n := by
  constructor
  · intro h
    obtain ⟨row, hrow, h⟩ := Option.bind_eq_some_iff.mp h
    obtain ⟨lead, hlead, hs⟩ := exists_lead base s
    split at h
    · cases h
    · next hshort =>
      cases h
      rw [hs]
      exact .mk hlead (digitRow?_eq_some_iff.mp hrow) (by omega)
  · rintro ⟨hlead, hrow, hshort⟩
    have hlong : ¬(base = 10 ∧ maxDecimalDigits < _) := fun h => absurd (hshort h.1) (Nat.not_le_of_lt h.2)
    rw [readNat?, dropLead_append hlead hrow, digitRow?_eq_some_iff.mpr hrow]
    exact if_neg hlong

/-! ## Signs and blanks -/

theorem Lead.nonblank (h : Lead base left) : ∀ c ∈ left, isBlank c = false := by
  have hunderscore : isBlank '_' = false := rfl
  cases h with
  | none => simp
  | letter hzero hletter =>
    simp [isBlank_of_decimalValue? hzero, (plain_of_leadLetter? hletter).1.blank]
  | underscore hzero hletter =>
    simp [isBlank_of_decimalValue? hzero, (plain_of_leadLetter? hletter).1.blank, hunderscore]

theorem Row.nonblank (h : Row base cs row) : ∀ c ∈ cs, isBlank c = false := by
  have hunderscore : isBlank '_' = false := rfl
  induction h with
  | last hd => simp [(plain_of_digitValue? hd).blank]
  | digit hd hrest ih => simpa [(plain_of_digitValue? hd).blank] using ih
  | underscore hd hrest ih => simpa [(plain_of_digitValue? hd).blank, hunderscore] using ih

theorem Unsigned.nonblank (h : Unsigned base s n) : ∀ c ∈ s, isBlank c = false := by
  obtain ⟨hlead, hrow, -⟩ := h
  exact List.forall_mem_append.mpr ⟨hlead.nonblank, hrow.nonblank⟩

/-- A numeral without sign starts with a plain character. -/
theorem Unsigned.head (h : Unsigned base s n) : ∃ c cs, s = c :: cs ∧ Plain c := by
  obtain ⟨hlead, hrow, -⟩ := h
  cases hlead with
  | none =>
    obtain ⟨c, cs, rfl⟩ := List.exists_cons_of_ne_nil hrow.ne_nil
    obtain ⟨d, hd⟩ := hrow.head
    exact ⟨c, cs, rfl, plain_of_digitValue? hd⟩
  | letter hzero hletter => exact ⟨_, _, rfl, plain_of_decimalValue? hzero⟩
  | underscore hzero hletter => exact ⟨_, _, rfl, plain_of_decimalValue? hzero⟩

theorem Unsigned.takeSign (h : Unsigned base s n) : takeSign s = (false, s) := by
  obtain ⟨c, cs, rfl, hplain⟩ := h.head
  rw [Numeral.takeSign]
  · rintro rest ⟨⟩
    exact hplain.minus rfl
  · rintro rest ⟨⟩
    exact hplain.plus rfl

theorem Signed.nonblank {n : Int} (h : Signed base s n) : ∀ c ∈ s, isBlank c = false := by
  cases h with
  | plain h => exact h.nonblank
  | plus h => exact List.forall_mem_cons.mpr ⟨rfl, h.nonblank⟩
  | minus h => exact List.forall_mem_cons.mpr ⟨rfl, h.nonblank⟩

theorem Signed.ne_nil {n : Int} (h : Signed base s n) : s ≠ [] := by
  cases h with
  | plain h =>
    obtain ⟨c, cs, rfl, -⟩ := h.head
    exact List.cons_ne_nil _ _
  | plus h => exact List.cons_ne_nil _ _
  | minus h => exact List.cons_ne_nil _ _

theorem dropWhile_blanks (hleft : ∀ c ∈ left, isBlank c = true) (hcore : ∀ c ∈ core, isBlank c = false)
    (hne : core ≠ []) : (left ++ core ++ right).dropWhile isBlank = core ++ right := by
  obtain ⟨c, cs, rfl⟩ := List.exists_cons_of_ne_nil hne
  rw [List.append_assoc, List.dropWhile_append_of_pos hleft, List.cons_append]
  exact List.dropWhile_cons_of_neg (by simp [hcore c])

/-- Blanks around a text without blanks are taken off, and nothing else. -/
theorem trim_append (hleft : ∀ c ∈ left, isBlank c = true) (hcore : ∀ c ∈ core, isBlank c = false)
    (hne : core ≠ []) (hright : ∀ c ∈ right, isBlank c = true) : trim (left ++ core ++ right) = core := by
  -- the second half of trimming is the first one, on the text read backwards
  have hback : (core ++ right).reverse = right.reverse ++ core.reverse ++ [] := by simp
  rw [trim, dropWhile_blanks hleft hcore hne, hback, dropWhile_blanks]
  · simp
  · simpa using hright
  · simpa using hcore
  · simpa using hne

theorem exists_blanks (s : List Char) : ∃ left right, (∀ c ∈ left, isBlank c = true)
    ∧ (∀ c ∈ right, isBlank c = true) ∧ s = left ++ trim s ++ right := by
  let rest := s.dropWhile isBlank
  refine ⟨s.takeWhile isBlank, (rest.reverse.takeWhile isBlank).reverse, fun c => List.mem_takeWhile_imp, ?_, ?_⟩
  · intro c hc
    exact List.mem_takeWhile_imp (List.mem_reverse.mp hc)
  · have hrest : rest = trim s ++ (rest.reverse.takeWhile isBlank).reverse := by
      rw [trim, ← List.reverse_append, List.takeWhile_append_dropWhile, List.reverse_reverse]
    rw [List.append_assoc, ← hrest, List.takeWhile_append_dropWhile]

theorem takeSign_cases (s : List Char) : (∃ rest, s = '-' :: rest ∧ takeSign s = (true, rest))
    ∨ (∃ rest, s = '+' :: rest ∧ takeSign s = (false, rest)) ∨ takeSign s = (false, s) := by
  unfold takeSign
  split
  · exact .inl ⟨_, rfl, rfl⟩
  · exact .inr (.inl ⟨_, rfl, rfl⟩)
  · exact .inr (.inr rfl)

theorem readInt?_eq_some_iff_signed {n : Int} : readInt? base s = some n ↔ Signed base (trim s) n := by
  unfold readInt?
  generalize trim s = core
  constructor
  · intro h
    rcases takeSign_cases core with ⟨rest, rfl, htake⟩ | ⟨rest, rfl, htake⟩ | htake
    all_goals
      rw [htake] at h
      obtain ⟨k, hk, rfl⟩ := Option.map_eq_some_iff.mp h
      have hnat := readNat?_eq_some_iff.mp hk
    · exact .minus hnat
    · exact .plus hnat
    · exact .plain hnat
  · intro h
    cases h with
    | plain h => simp [h.takeSign, readNat?_eq_some_iff.mpr h]
    | plus h => simp [takeSign, readNat?_eq_some_iff.mpr h]
    | minus h => simp [takeSign, readNat?_eq_some_iff.mpr h]

/-- A text is read as an integer if and only if it is a numeral of it. -/
theorem readInt?_eq_some_iff {n : Int} : readInt? base s = some n ↔ Written base s n := by
  rw [readInt?_eq_some_iff_signed]
  constructor
  · intro h
    obtain ⟨left, right, hleft, hright, hs⟩ := exists_blanks s
    rw [hs]
    exact .mk hleft h hright
  · rintro ⟨hleft, h, hright⟩
    rwa [trim_append hleft h.nonblank h.ne_nil hright]

/-! ## The numerals of a number -/

theorem digitValue?_of_lt {wide : Nat} (h : digitValue? wide c = some d) (hd : d < base) :
    digitValue? base c = some d := by
  obtain ⟨hvalue, -⟩ := Option.filter_eq_some_iff.mp h
  exact Option.filter_eq_some_iff.mpr ⟨hvalue, decide_eq_true hd⟩

theorem digitValue?_digitChar_of_lt (hbase : base ≤ 16) (hd : d < base) : digitValue? base (digitChar d) = some d :=
  digitValue?_of_lt (digitValue?_digitChar (Nat.lt_of_lt_of_le hd hbase)) hd

theorem map_digitChar_values (hbase : base ≤ 16) (hrow : ∀ d ∈ row, d < base) :
    (row.map digitChar).map (digitValue? base) = row.map some := by
  rw [List.map_map]
  exact List.map_congr_left fun d hd => digitValue?_digitChar_of_lt hbase (hrow d hd)

theorem row_of_values (hne : row ≠ []) (h : cs.map (digitValue? base) = row.map some) : Row base cs row := by
  induction row generalizing cs with
  | nil => exact absurd rfl hne
  | cons d row ih =>
    obtain ⟨c, rest, rfl, hd, hrest⟩ := List.map_eq_cons_iff.mp h
    cases row with
    | nil =>
      cases List.map_eq_nil_iff.mp hrest
      exact .last hd
    | cons e row => exact .digit hd (ih (List.cons_ne_nil _ _) hrest)

/-- Characters with the values of digits that stand for a number, after the lead of the base, are a numeral. -/
theorem Spells.unsigned {lead : List Char} (h : Spells base row n) (hlead : Lead base lead)
    (hcs : cs.map (digitValue? base) = row.map some) (hshort : base = 10 → row.length ≤ maxDecimalDigits) :
    Unsigned base (lead ++ cs) n :=
  h.value ▸ .mk hlead (row_of_values h.ne_nil hcs) hshort

/-- The digits of a number after the lead of the base, capital or not and with zeros before them, are a numeral. -/
theorem unsigned_of_natChars {lead : List Char} (hb : 2 ≤ base) (hbase : base ≤ 16) (hlead : Lead base lead)
    (hcs : cs.map (digitValue? base) = (natChars base n).map (digitValue? base)) (k : Nat)
    (hshort : base = 10 → k + (natChars base n).length ≤ maxDecimalDigits) :
    Unsigned base (lead ++ (List.replicate k '0' ++ cs)) n := by
  obtain ⟨row, hrow, hspells⟩ := natChars_spells hb n
  have hpos : 0 < base := by omega
  have hzero : digitValue? base '0' = some 0 := digitValue?_digitChar_of_lt (d := 0) hbase hpos
  refine (hspells.zeros hb k).unsigned hlead ?_ ?_
  · rw [List.map_append, hcs, hrow, map_digitChar_values hbase hspells.digits, List.map_append, List.map_replicate,
      List.map_replicate, hzero]
  · rwa [List.length_append, List.length_replicate, ← List.length_map digitChar, ← hrow]

theorem map_toLower_values (cs : List Char) :
    (cs.map Char.toLower).map (digitValue? base) = cs.map (digitValue? base) := by
  rw [List.map_map]
  exact List.map_congr_left fun _ _ => digitValue?_toLower

/-- The decimal form of an integer that is not too long is a minus sign, if it is negative, and a numeral of its
absolute value. -/
theorem decimal_numeral {n : Int} (hn : (natChars 10 n.natAbs).length ≤ maxDecimalDigits) :
    ∃ cs, Unsigned 10 cs n.natAbs ∧ (decimal n).toList = (if n < 0 then ['-'] else []) ++ cs := by
  have hnumeral := unsigned_of_natChars (by omega) (by omega) .none (map_toLower_values (natChars 10 n.natAbs)) 0
    fun _ => by rwa [Nat.zero_add]
  exact ⟨_, hnumeral, decimal_toList n⟩

/-- A minus sign, if the integer is negative, and a numeral of its absolute value. -/
theorem signed_of_natAbs {n : Int} (h : Unsigned base cs n.natAbs) :
    Signed base ((if n < 0 then ['-'] else []) ++ cs) n := by
  split
  · next hneg =>
    have hvalue : n = -(n.natAbs : Int) := by omega
    exact hvalue ▸ .minus h
  · next hpos =>
    have hvalue : n = (n.natAbs : Int) := by omega
    exact hvalue ▸ .plain h

theorem Signed.written {n : Int} (h : Signed base s n) : Written base s n := by
  have hwritten := Written.mk (List.forall_mem_nil _) h (List.forall_mem_nil _)
  rwa [List.nil_append, List.append_nil] at hwritten

/-- A hexadecimal numeral reads as the integer it was written for, whatever its width. -/
theorem readInt?_hex (width : Nat) (n : Int) : readInt? 16 (hex width n).toList = some n := by
  obtain ⟨row, hspells, hwrite⟩ := hex_spells width n
  have hvalues := map_digitChar_values (Nat.le_refl 16) hspells.digits
  have hnumeral := hspells.unsigned .none hvalues (fun h => absurd h (by decide))
  rw [readInt?_eq_some_iff, hwrite]
  exact (signed_of_natAbs hnumeral).written

/-! ## Decimal numerals and the lead of base sixteen -/

theorem toLower_of_decimal (h : digitValue? 10 c = some d) : c.toLower ≠ 'x' := by
  intro hx
  have hnone : digitValue? 10 'x' = none := by decide +kernel
  rw [← digitValue?_toLower, hx, hnone] at h
  cases h

theorem Row.toLower_ne (h : Row 10 cs row) : ∀ c ∈ cs, c.toLower ≠ 'x' := by
  induction h with
  | last hd => simpa using toLower_of_decimal hd
  | digit hd hrest ih => exact List.forall_mem_cons.mpr ⟨toLower_of_decimal hd, ih⟩
  | underscore hd hrest ih =>
    exact List.forall_mem_cons.mpr ⟨toLower_of_decimal hd, List.forall_mem_cons.mpr ⟨by decide, ih⟩⟩

theorem Unsigned.toLower_ne (h : Unsigned 10 s n) : ∀ c ∈ s, c.toLower ≠ 'x' := by
  obtain ⟨hlead, hrow, -⟩ := h
  cases hlead with
  | none => exact hrow.toLower_ne
  | letter _ hletter => cases hletter
  | underscore _ hletter => cases hletter

theorem toLower_of_blank (h : isBlank c = true) : c.toLower ≠ 'x' := by
  intro hx
  have hletter : leadLetter? 16 = some c.toLower := congrArg some hx.symm
  have hplain := (plain_of_leadLetter? hletter).1
  exact Bool.false_ne_true (hplain.blank.symm.trans h)

/-- No character of a decimal numeral is the letter of base sixteen. -/
theorem Written.toLower_ne {n : Int} (h : Written 10 s n) : ∀ c ∈ s, c.toLower ≠ 'x' := by
  obtain ⟨hleft, hcore, hright⟩ := h
  refine List.forall_mem_append.mpr ⟨List.forall_mem_append.mpr ⟨fun c hc => toLower_of_blank (hleft c hc), ?_⟩,
    fun c hc => toLower_of_blank (hright c hc)⟩
  cases hcore with
  | plain h => exact h.toLower_ne
  | plus h => exact List.forall_mem_cons.mpr ⟨by decide, h.toLower_ne⟩
  | minus h => exact List.forall_mem_cons.mpr ⟨by decide, h.toLower_ne⟩

end Chip8.Numeral
