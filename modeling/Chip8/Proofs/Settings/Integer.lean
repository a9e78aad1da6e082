import Chip8.Proofs.Numeral.Grammar
import Chip8.Proofs.Settings.KeyMap
import Chip8.Proofs.Text.UpperCase

/-!
# Integers in settings

A setting that should be an integer is one itself, or a text that is a numeral: in base sixteen if it starts with the
lead of that base, and else in base ten. So the numeral of an integer gives the integer back, in base ten with its sign
and blanks around it, and in base sixteen with capital and small digits and zeros before them. Everything else is
refused, and the refusal shows the value, unless that cannot be written: then writing it is the fault.

Main statements: `DecimalOf.written`, `HexOf.written`, `integer_text_iff`, `refused_collection`, `integer_readsBack`.
-/

namespace Chip8.Settings

open Numeral Text

variable {d : Datum} {n : Int} {t : Text} {s : List Char} {k : Nat} {site : Site}

/-! ## Texts that are numerals -/

/-- A text writes an integer: it is a numeral of it, in base sixteen if it starts with the lead of that base. -/
def Writes (t : Text) (n : Int) : Prop := ∃ s, t = Text.ofList s ∧ Written (if hasLead s then 16 else 10) s n

/-- The decimal numeral of an integer, perhaps with a plus sign if it is not negative, and with blanks around it. -/
inductive DecimalOf (n : Int) : List Char → Prop where
  | plain {left right : List Char} (hleft : ∀ c ∈ left, isBlank c = true) (hright : ∀ c ∈ right, isBlank c = true) :
    DecimalOf n (left ++ (decimal n).toList ++ right)
  | plus {left right : List Char} (hn : 0 ≤ n) (hleft : ∀ c ∈ left, isBlank c = true)
    (hright : ∀ c ∈ right, isBlank c = true) : DecimalOf n (left ++ '+' :: (decimal n).toList ++ right)

/-- The digits of a number in base sixteen, each of them capital or small, after a lead and any number of zeros. -/
inductive HexOf (n : Nat) : List Char → Prop where
  | mk {x : Char} {cs : List Char} (hx : x = 'x' ∨ x = 'X') (zeros : Nat)
    (hcs : cs.map Char.toLower = (natChars 16 n).map Char.toLower) :
    HexOf n ('0' :: x :: (List.replicate zeros '0' ++ cs))

/-- The value is refused with a fault that shows it, and that is reported. -/
def Refused [Room] (site : Site) (d : Datum) : Prop :=
  ∃ text, d.shown (Room.left site) = .ok text ∧ integer site d = .error (.notInteger text)
    ∧ (SettingsFault.notInteger text).isReported

theorem DecimalOf.written (h : DecimalOf n s) (hn : (natChars 10 n.natAbs).length ≤ maxDecimalDigits) :
    Written 10 s n := by
  obtain ⟨cs, hcs, hdecimal⟩ := decimal_numeral hn
  cases h with
  | plain hleft hright =>
    refine .mk hleft ?_ hright
    rw [hdecimal]
    exact signed_of_natAbs hcs
  | plus hpos hleft hright =>
    refine .mk hleft ?_ hright
    have hvalue : n = (n.natAbs : Int) := by omega
    rw [hdecimal, if_neg (by omega)]
    exact hvalue ▸ .plus hcs

theorem HexOf.written (h : HexOf k s) : Written 16 s k := by
  obtain ⟨hx, zeros, hcs⟩ := h
  next x cs =>
  have hvalues : cs.map (digitValue? 16) = (natChars 16 k).map (digitValue? 16) := by
    rw [← map_toLower_values, hcs, map_toLower_values]
  have hletter : leadLetter? 16 = some x.toLower := by
    rcases hx with rfl | rfl <;> rfl
  have hlead : Lead 16 ['0', x] := .letter (by decide) hletter
  have hnumeral := unsigned_of_natChars (by omega) (by omega) hlead hvalues zeros (fun h => absurd h (by decide))
  exact (Signed.plain hnumeral).written

theorem HexOf.hasLead (h : HexOf k s) : hasLead s = true := by
  obtain ⟨rfl | rfl, -, -⟩ := h <;> rfl

theorem hasLead_of_written (h : Written 10 s n) : hasLead s = false := by
  refine Bool.eq_false_iff.mpr fun hlead => ?_
  unfold Settings.hasLead at hlead
  split at hlead
  · exact h.toLower_ne 'x' (by simp) rfl
  · exact h.toLower_ne 'X' (by simp) rfl
  · cases hlead

theorem integerOf?_eq_some_iff : integerOf? t = some n ↔ Writes t n := by
  constructor
  · intro h
    obtain ⟨s, hs, h⟩ := Option.bind_eq_some_iff.mp h
    exact ⟨s, ofList_of_toList? hs, readInt?_eq_some_iff.mp h⟩
  · rintro ⟨s, rfl, h⟩
    rw [integerOf?, Text.toList?_ofList]
    exact readInt?_eq_some_iff.mpr h

section Refusals

variable [Room]

theorem integer_text_iff (hd : d.value = .text t) : integer site d = .ok n ↔ Writes t n := by
  rw [integer_eq_ok_iff, ← integerOf?_eq_some_iff]
  simp [StandsFor, hd]

/-! ## Refusals -/

theorem refused_text (hd : d.value = .text t) (h : ¬∃ n, Writes t n) : Refused site d := by
  have hshown : d.shown (Room.left site) = .ok t := by
    unfold Datum.shown
    rw [hd]
  have hnone : integerOf? t = none :=
    Option.eq_none_iff_forall_ne_some.mpr fun n hn => h ⟨n, integerOf?_eq_some_iff.mp hn⟩
  refine ⟨t, hshown, ?_, rfl⟩
  unfold integer
  simp only [hd, hnone]

/-- A single value that is neither an integer nor a text has a text to be refused with, and needs no room for it. -/
theorem refused_single (hint : ∀ n, d.value ≠ .int n) (htext : ∀ t, d.value ≠ .text t)
    (hcollection : ∀ place, d.value ≠ .collection place) : Refused site d := by
  obtain ⟨value, table⟩ := d
  cases value with
  | int n => exact absurd rfl (hint n)
  | text t => exact absurd rfl (htext t)
  | collection place => exact absurd rfl (hcollection place)
  | _ => exact ⟨_, rfl, rfl, rfl⟩

/-- A collection is refused if and only if there is no reason against writing it; else one of the reasons is the
fault. -/
theorem refused_collection {place : Nat} (hd : d.value = .collection place) :
    (Refused site d ↔ ∀ fault, ¬d.Unwritable (Room.left site) fault)
      ∧ (¬Refused site d → ∃ fault, integer site d = .error (.unwritable fault)
        ∧ d.Unwritable (Room.left site) fault) := by
  have hinteger : integer site d = _ := integer_collection hd
  have hshown : d.shown (Room.left site) = Text.ofString <$> d.literal (Room.left site) := by
    unfold Datum.shown
    rw [hd]
  rw [← Datum.literal_ok_iff]
  cases hliteral : d.literal (Room.left site) with
  | ok text =>
    rw [hliteral] at hinteger hshown
    have hrefused : Refused site d := ⟨_, hshown, hinteger, rfl⟩
    exact ⟨iff_of_true hrefused ⟨text, rfl⟩, fun h => absurd hrefused h⟩
  | error fault =>
    rw [hliteral] at hinteger
    have hfails : ¬Refused site d := by
      rintro ⟨text, -, hfault, -⟩
      cases hinteger.symm.trans hfault
    exact ⟨iff_of_false hfails nofun, fun _ => ⟨fault, hinteger, Datum.literal_error hliteral⟩⟩

/-! ## The law -/

/-- An integer is itself; its numerals, decimal or in base sixteen, give it back; a text is good exactly if it is a
numeral; and everything else is refused, except that a collection which holds an integer of too many digits, or stands
too deep inside itself to be written, makes a fault that is not reported. -/
theorem integer_readsBack (site : Site) (d : Datum) :
    (∀ n, d.value = .int n → integer site d = .ok n)
      ∧ (∀ n s, (natChars 10 n.natAbs).length ≤ maxDecimalDigits → DecimalOf n s →
        d.value = .text (Text.ofList s) → integer site d = .ok n)
      ∧ (∀ n s, HexOf n s → d.value = .text (Text.ofList s) → integer site d = .ok n)
      ∧ (∀ t, d.value = .text t →
        (∀ n, integer site d = .ok n ↔ Writes t n) ∧ ((¬∃ n, Writes t n) → Refused site d))
      ∧ ((∀ n, d.value ≠ .int n) → (∀ t, d.value ≠ .text t) → (∀ place, d.value ≠ .collection place) →
        Refused site d)
      ∧ (∀ place, d.value = .collection place →
        (Refused site d ↔ ∀ fault, ¬d.Unwritable (Room.left site) fault)
          ∧ (¬Refused site d → ∃ fault, integer site d = .error (.unwritable fault)
            ∧ d.Unwritable (Room.left site) fault)) := by
  refine ⟨fun n hd => integer_eq_ok_iff.mpr (.inl hd), fun n s hn hs hd => ?_, fun n s hs hd => ?_,
    fun t hd => ⟨fun n => integer_text_iff hd, refused_text hd⟩, refused_single,
    fun place hd => refused_collection hd⟩
  · have hwritten := hs.written hn
    refine (integer_text_iff hd).mpr ⟨s, rfl, ?_⟩
    rwa [hasLead_of_written hwritten, if_neg Bool.false_ne_true]
  · refine (integer_text_iff hd).mpr ⟨s, rfl, ?_⟩
    rw [hs.hasLead, if_pos rfl]
    exact hs.written

end Refusals

def singleList (item : Value) : Datum where
  value := .collection 0
  table := #[.list [item]]

/-- A list of one single value is written as that value with brackets around it. -/
theorem literal_singleList {item : Value} {room : Nat} {x : Except TextFault String} (hroom : 0 < room)
    (hitem : ∀ collection, item.literal (room - 1) collection = x) :
    (singleList item).literal room = x.map fun text => Collection.enclosed "[" "]" [text] := by
  have hlist : collectionAt (singleList item).table 0 = .list [item] := rfl
  have hlevels : (Collection.list [item]).levels ≤ room := hroom
  have hwritten : Datum.collectionLiteral (singleList item).table [] room 0
      = x.map fun text => Collection.enclosed "[" "]" [text] := by
    unfold Datum.collectionLiteral
    simp only [hlist, hlevels, if_true, List.not_mem_nil, if_false]
    show (do return Collection.enclosed "[" "]" (← [item].mapM fun v : Value => v.literal (room - 1) _)) = _
    simp only [List.mapM_cons, List.mapM_nil, hitem]
    cases x <;> rfl
  exact hwritten

/-- A decimal numeral with blanks, one in base sixteen, a word, a truth value and a list. -/
theorem integer_readsBack_five : integer .number (Value.text " -12 ") = .ok (-12)
    ∧ integer .number (Value.text "0X0fF") = .ok 255 ∧ Refused .number (Value.text "twelve")
    ∧ Refused .number (Value.bool true) ∧ Refused .number (singleList .null) := by
  obtain ⟨-, hdecimal, -⟩ := integer_readsBack .number (Value.text " -12 ")
  obtain ⟨-, -, hhex, -⟩ := integer_readsBack .number (Value.text "0X0fF")
  obtain ⟨-, -, -, htext, -⟩ := integer_readsBack .number (Value.text "twelve")
  obtain ⟨-, -, -, -, hsingle, -⟩ := integer_readsBack .number (Value.bool true)
  obtain ⟨-, -, -, -, -, hcollection⟩ := integer_readsBack .number (singleList .null)
  have hspaced : DecimalOf (-12) " -12 ".toList := by
    have hchars : [' '] ++ (decimal (-12)).toList ++ [' '] = " -12 ".toList := by decide +kernel
    have hblank : ∀ c ∈ [' '], isBlank c = true := List.forall_mem_singleton.mpr rfl
    exact hchars ▸ .plain hblank hblank
  have hshort : (natChars 10 (-12 : Int).natAbs).length ≤ maxDecimalDigits := by decide +kernel
  have hfilled : HexOf 255 "0X0fF".toList := .mk (.inr rfl) 1 (by decide +kernel)
  obtain ⟨hreads, hrefused⟩ := htext _ rfl
  have hword : ¬∃ n, Writes "twelve" n := by
    rintro ⟨n, hn⟩
    cases (hreads n).mpr hn
  have hroom : 0 < Room.left .number := by decide
  have hwritten : (singleList .null).literal (Room.left .number) = .ok (Collection.enclosed "[" "]" ["None"]) :=
    literal_singleList (x := .ok "None") hroom fun _ => rfl
  have hlist : ∀ fault, ¬(singleList .null).Unwritable (Room.left .number) fault :=
    Datum.literal_ok_iff.mp ⟨_, hwritten⟩
  exact ⟨hdecimal (-12) _ hshort hspaced rfl, hhex 255 _ hfilled rfl, hrefused hword, hsingle nofun nofun nofun,
    (hcollection 0 rfl).1.mpr hlist⟩

/-- The least natural number of too many digits. -/
def leastLong : Nat := Nat.pow 10 maxDecimalDigits

theorem leastLong_isLong : (Value.int leastLong).IsLong := by
  unfold leastLong Value.IsLong
  -- the bound itself does not matter, and the power is not computed
  generalize maxDecimalDigits = bound
  exact ⟨_, rfl, lt_natChars_pow_length (by decide) bound⟩

/-- A list with an integer of too many digits is not refused as other lists are. -/
theorem long_item_not_refused : integer .number (singleList (.int leastLong)) = .error (.unwritable .longInteger)
    ∧ ¬Refused .number (singleList (.int leastLong)) := by
  have hroom : 0 < Room.left .number := by decide
  have hfault : integer .number (singleList (.int leastLong)) = .error (.unwritable .longInteger) := by
    rw [integer_collection rfl, literal_singleList hroom fun _ => Value.literal_of_isLong leastLong_isLong]
    rfl
  refine ⟨hfault, ?_⟩
  rintro ⟨text, -, hrefused, -⟩
  cases hfault.symm.trans hrefused

end Chip8.Settings
