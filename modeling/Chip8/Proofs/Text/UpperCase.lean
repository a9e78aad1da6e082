import Chip8.Text.UpperCase

/-!
# Upper case of ASCII

Text of ASCII is put into upper case letter by letter, and once more changes nothing. A string is of ASCII if its bytes
are below `0x80`; these are then the numbers of its characters.

Main statements: `upper_ascii`, `raised_raised`, `bytesOf_ascii`.
-/

namespace Chip8

namespace Text

variable {s : List Char} {c : Char}

/-! ## Capitals -/

/-- The number of a character of ASCII as a capital. -/
def raisedNumber (n : Nat) : Nat := if 0x61 ≤ n ∧ n ≤ 0x7a then n - 0x20 else n

/-- A character of ASCII as a capital. -/
def raised (c : Char) : Char := Char.ofNat (raisedNumber c.toNat)

theorem raisedNumber_raisedNumber (n : Nat) : raisedNumber (raisedNumber n) = raisedNumber n := by
  have hlarge : ¬(0x61 ≤ raisedNumber n ∧ raisedNumber n ≤ 0x7a) := by
    unfold raisedNumber
    split <;> omega
  rw [raisedNumber, if_neg hlarge]

theorem toNat_raised (c : Char) : (raised c).toNat = raisedNumber c.toNat := by
  unfold raised raisedNumber
  by_cases hsmall : 0x61 ≤ c.toNat ∧ c.toNat ≤ 0x7a
  · rw [if_pos hsmall, Char.ofNat, dif_pos (.inl (by omega))]
    rfl
  · rw [if_neg hsmall, Char.ofNat_toNat]

theorem raised_raised (c : Char) : raised (raised c) = raised c := by
  rw [raised, toNat_raised, raisedNumber_raisedNumber]
  rfl

theorem raised_ascii (h : c.toNat < 0x80) : (raised c).toNat < 0x80 := by
  rw [toNat_raised, raisedNumber]
  split <;> omega

/-- All rows of the tables but the first are about letters beyond ASCII. -/
theorem upperChar_ascii (h : c.toNat < 0x80) : upperChar c = [raised c] := by
  have hlong : longCapitals.find? (fun row => decide (row.1 = c.toNat)) = none := by
    have hbeyond : ∀ row ∈ longCapitals, 0x80 ≤ row.1 := by decide +kernel
    apply List.find?_eq_none.mpr
    intro row hrow hsame
    have hfar := hbeyond row hrow
    have hsame := of_decide_eq_true hsame
    omega
  have hruns : capitalRuns = (0x61, 0x7a, 1, -32) :: capitalRuns.tail := rfl
  have hbeyond : ∀ row ∈ capitalRuns.tail, 0x80 ≤ row.1 := by decide +kernel
  unfold upperChar raised raisedNumber
  simp only [hlong]
  rw [hruns, List.find?_cons]
  by_cases hsmall : 0x61 ≤ c.toNat ∧ c.toNat ≤ 0x7a
  · simp only [hsmall, Nat.mod_one, and_self, decide_true, if_true]
    rw [show ((c.toNat : Int) + -32).toNat = c.toNat - 0x20 by omega]
  · simp only [hsmall, Nat.mod_one, and_true, decide_false, if_false]
    split
    · next hfind =>
      have hfar := hbeyond _ (List.mem_of_find?_eq_some hfind)
      have hin := List.find?_some hfind
      have hsmaller := (of_decide_eq_true hin).1
      omega
    · rw [Char.ofNat_toNat]

theorem upper_ascii (h : ∀ c ∈ s, c.toNat < 0x80) : (ofList s).upper = ofList (s.map raised) := by
  unfold upper ofList
  congr 1
  induction s with
  | nil => rfl
  | cons c s ih =>
    rw [List.map_cons, List.flatMap_cons, upperPoint, upperChar_ascii (h c List.mem_cons_self),
      ih fun c' hc' => h c' (List.mem_cons_of_mem c hc')]
    rfl

/-! ## Bytes -/

def bytesOf (name : String) : List Nat := name.toByteArray.data.toList.map UInt8.toNat

theorem bytesOf_eq (name : String) :
    bytesOf name = name.toList.flatMap fun c => (String.utf8EncodeChar c).map UInt8.toNat := by
  rw [bytesOf, ← String.utf8Encode_toList, List.utf8Encode, List.toList_data_toByteArray, List.map_flatMap]

theorem encoded_ascii (h : c.toNat < 0x80) : (String.utf8EncodeChar c).map UInt8.toNat = [c.toNat] := by
  have hv : c.val.toNat < 0x80 := h
  unfold String.utf8EncodeChar
  rw [if_pos (by omega), List.map_singleton, UInt8.toNat_ofNat_of_lt' (by unfold UInt8.size; omega)]
  rfl

/-- The last byte of a character beyond ASCII is beyond it, too. -/
theorem encoded_beyond (h : 0x80 ≤ c.toNat) : ∃ b ∈ (String.utf8EncodeChar c).map UInt8.toNat, 0x80 ≤ b := by
  have hv : 0x80 ≤ c.val.toNat := h
  refine ⟨(UInt8.ofNat (c.val.toNat % 0x40 + 0x80)).toNat, ?_, ?_⟩
  · apply List.mem_map_of_mem
    unfold String.utf8EncodeChar
    rw [if_neg (by omega)]
    split
    · exact List.mem_of_getLast? rfl
    · split
      · exact List.mem_of_getLast? rfl
      · exact List.mem_of_getLast? rfl
  · rw [UInt8.toNat_ofNat_of_lt' (by unfold UInt8.size; omega)]
    omega

/-- If the bytes of a string are in ASCII, they are its characters. -/
theorem bytesOf_ascii {name : String} (h : ∀ b ∈ bytesOf name, b < 0x80) :
    bytesOf name = name.toList.map Char.toNat := by
  rw [bytesOf_eq] at h
  have hsingle : ∀ c ∈ name.toList, (String.utf8EncodeChar c).map UInt8.toNat = [c.toNat] := by
    intro c hc
    apply encoded_ascii
    apply Nat.lt_of_not_le
    intro hbeyond
    obtain ⟨b, hb, hfar⟩ := encoded_beyond hbeyond
    have hnear := h b (List.mem_flatMap.mpr ⟨c, hc, hb⟩)
    omega
  rw [bytesOf_eq, List.map_eq_flatMap, List.flatMap_def, List.flatMap_def, List.map_congr_left hsingle]

/-! ## Text of characters -/

theorem ofList_of_toList? {t : Text} (h : t.toList? = some s) : t = ofList s := by
  obtain ⟨points⟩ := t
  apply congrArg Text.mk
  induction points generalizing s with
  | nil =>
    cases h
    rfl
  | cons p points ih =>
    unfold toList? at h
    rw [List.mapM_cons] at h
    obtain ⟨c, hc, hrest⟩ := Option.bind_eq_some_iff.mp h
    obtain ⟨s', hs', hcons⟩ := Option.bind_eq_some_iff.mp hrest
    cases hcons
    rw [ih hs', List.map_cons]
    cases p with
    | char d =>
      cases hc
      rfl
    | half n => cases hc

theorem of_toString? {t : Text} {name : String} (h : t.toString? = some name) : t = ofList name.toList := by
  obtain ⟨s, hs, rfl⟩ := Option.map_eq_some_iff.mp h
  rw [String.toList_ofList]
  exact ofList_of_toList? hs

end Text

end Chip8
