import Chip8.Proofs.Action
import Chip8.Settings.Datum

/-!
# What can be written

A value has a text unless an integer inside it has too many digits or its parts stand too deep inside it.
`Value.Inside` says what stands inside a value and how deep: a collection that stands inside itself ends in dots, so
it follows only the ways that enter no collection twice. Writing fails for one of the reasons that there are, and
succeeds if there are none.

Main statements: `Value.literal_error`, `Value.Inside.fits`, `Datum.literal_ok_iff`.
-/

namespace Chip8

open Numeral

def Collection.values : Collection → List Value
  | list items | set items => items
  | map entries => entries.flatMap fun (key, value) => [key, value]
  | pair first second => [first, second]

namespace Value

/-- An integer of more digits than are written. -/
def IsLong (v : Value) : Prop := ∃ n : Int, v = .int n ∧ maxDecimalDigits < (natChars 10 n.natAbs).length

/-- `Inside table around levels v w`: on a way that enters no collection twice, and none of those around, the value `w`
stands so many levels inside `v`, or is `v` itself. -/
inductive Inside (table : Array Collection) : (around : List Nat) → (levels : Nat) → (v w : Value) → Prop
  | self {around : List Nat} {v : Value} : Inside table around 0 v v
  | held {around : List Nat} {levels place : Nat} {v w : Value} (hplace : place ∉ around)
      (hv : v ∈ (collectionAt table place).values) (h : Inside table (place :: around) levels v w) :
      Inside table around (levels + (collectionAt table place).levels) (.collection place) w

/-- A reason for which a value cannot be written: an integer inside it is too long, or something stands deeper inside it
than there is room for. -/
def Unwritable (table : Array Collection) (around : List Nat) (room : Nat) (v : Value) : TextFault → Prop
  | .longInteger => ∃ levels w, Inside table around levels v w ∧ w.IsLong
  | .tooDeep => ∃ levels w, Inside table around levels v w ∧ room < levels + w.levels

end Value

namespace Datum

/-- A reason for which a datum cannot be written. -/
def Unwritable (room : Nat) (d : Datum) (fault : TextFault) : Prop := d.value.Unwritable d.table [] room fault

/-- A datum of a table that is held there. -/
structure HeldIn (table : Array Collection) (d : Datum) : Prop where
  table : d.table = table
  held : ∃ c ∈ d.table, d.value ∈ c.values

/-- Some collection of the table holds an integer that is too long. -/
def HoldsLong (table : Array Collection) : Prop := ∃ c ∈ table, ∃ v ∈ c.values, v.IsLong

end Datum

/-! ## Writing collections -/

namespace Collection

variable {α : Type} {f : α → Except TextFault String} {l : List α} {opening closing text : String} {fault : TextFault}
  {written : Value → Except TextFault String} {c : Collection}

theorem enclosed_error (h : (do return enclosed opening closing (← l.mapM f)) = Except.error fault) :
    ∃ a ∈ l, f a = .error fault := by
  rcases bind_eq_error_iff.mp h with h | ⟨parts, -, h⟩
  · exact mapM_error h
  · cases h

theorem enclosed_ok (h : (do return enclosed opening closing (← l.mapM f)) = Except.ok text) :
    ∀ a ∈ l, ∃ part, f a = .ok part := by
  obtain ⟨parts, hparts, -⟩ := bind_eq_ok_iff.mp h
  exact exists_of_mapM hparts

/-- If a collection cannot be written, that is for one of its values. -/
theorem literal_error (h : c.literal written = .error fault) : ∃ v ∈ c.values, written v = .error fault := by
  unfold literal at h
  split at h
  · exact enclosed_error h
  · cases h
  · exact enclosed_error h
  · obtain ⟨⟨key, value⟩, hentry, h⟩ := enclosed_error h
    have hvalues : ∀ v ∈ [key, value], v ∈ (Collection.map _).values :=
      fun v hv => List.mem_flatMap.mpr ⟨(key, value), hentry, hv⟩
    rcases bind_eq_error_iff.mp h with h | ⟨_, -, h⟩
    · exact ⟨key, hvalues key List.mem_cons_self, h⟩
    · rcases bind_eq_error_iff.mp h with h | ⟨_, -, h⟩
      · exact ⟨value, hvalues value (List.mem_cons_of_mem key List.mem_cons_self), h⟩
      · cases h
  · exact enclosed_error h

theorem literal_ok (h : c.literal written = .ok text) : ∀ v ∈ c.values, ∃ part, written v = .ok part := by
  unfold literal at h
  split at h
  · exact enclosed_ok h
  · exact List.forall_mem_nil _
  · exact enclosed_ok h
  · intro v hv
    obtain ⟨⟨key, value⟩, hentry, hv⟩ := List.mem_flatMap.mp hv
    obtain ⟨_, h⟩ := enclosed_ok h _ hentry
    obtain ⟨keyText, hkey, h⟩ := bind_eq_ok_iff.mp h
    obtain ⟨valueText, hvalue, -⟩ := bind_eq_ok_iff.mp h
    rcases List.mem_pair.mp hv with rfl | rfl
    · exact ⟨keyText, hkey⟩
    · exact ⟨valueText, hvalue⟩
  · exact enclosed_ok h

end Collection

/-! ## Writing values -/

namespace Value

open Datum

variable {table : Array Collection} {around : List Nat} {room levels : Nat} {v w : Value} {fault : TextFault}
  {text : String}

/-- What cannot be written in a collection, so many levels inside it, is a reason for which it cannot be written. -/
theorem Unwritable.held {place : Nat} (hplace : place ∉ around) (hv : v ∈ (collectionAt table place).values)
    (hroom : (collectionAt table place).levels ≤ room)
    (h : v.Unwritable table (place :: around) (room - (collectionAt table place).levels) fault) :
    (Value.collection place).Unwritable table around room fault := by
  cases fault with
  | longInteger =>
    obtain ⟨levels, w, hinside, hlong⟩ := h
    exact ⟨_, w, .held hplace hv hinside, hlong⟩
  | tooDeep =>
    obtain ⟨levels, w, hinside, hdeep⟩ := h
    exact ⟨_, w, .held hplace hv hinside, by omega⟩

theorem intText_error {n : Int} (h : intText n = .error fault) : fault = .longInteger ∧ (Value.int n).IsLong := by
  unfold intText at h
  dsimp only at h
  split at h
  · next hlong =>
    cases h
    exact ⟨rfl, n, rfl, hlong⟩
  · cases h

/-- If a collection cannot be written, that is for one of its values, which there is no room for or which cannot be
written in the room that is left. -/
theorem collectionLiteral_error {place : Nat} (h : collectionLiteral table around room place = .error fault) :
    place ∉ around ∧ ∃ v ∈ (collectionAt table place).values,
      ((collectionAt table place).levels ≤ room
          ∧ v.literal (room - (collectionAt table place).levels) (collectionLiteral table (place :: around)
            (room - (collectionAt table place).levels)) = .error fault)
        ∨ (room < (collectionAt table place).levels ∧ fault = .tooDeep) := by
  unfold collectionLiteral at h
  dsimp only at h
  split at h
  · cases h
  · next hplace =>
    obtain ⟨v, hv, h⟩ := Collection.literal_error h
    refine ⟨hplace, v, hv, ?_⟩
    split at h
    · next hroom => exact .inl ⟨hroom, h⟩
    · next hroom =>
      cases h
      exact .inr ⟨Nat.lt_of_not_le hroom, rfl⟩

/-- A value that cannot be written has a reason for it. -/
theorem literal_error (h : v.literal room (collectionLiteral table around room) = .error fault) :
    v.Unwritable table around room fault := by
  -- by induction on the room, which gets less with every collection that is entered
  induction room using Nat.strongRecOn generalizing around v with
  | ind room ih =>
    unfold literal at h
    split at h
    · next hlevels =>
      cases h
      exact ⟨0, v, .self, by omega⟩
    · split at h <;> try cases h
      · next n _ =>
        obtain ⟨rfl, hlong⟩ := intText_error h
        exact ⟨0, _, .self, hlong⟩
      · next place _ =>
        obtain ⟨hplace, inner, hinner, ⟨hroom, h⟩ | ⟨hroom, rfl⟩⟩ := collectionLiteral_error h
        · have hless : room - (collectionAt table place).levels < room :=
            Nat.sub_lt (Nat.lt_of_lt_of_le (collectionAt table place).levels_pos hroom)
              (collectionAt table place).levels_pos
          exact (ih _ hless h).held hplace hinner hroom
        · exact ⟨_, inner, .held hplace hinner .self, by omega⟩

theorem literal_of_isLong {collection : Nat → Except TextFault String} (h : v.IsLong) :
    v.literal room collection = .error .longInteger := by
  obtain ⟨n, rfl, hlong⟩ := h
  exact if_pos hlong

/-- Nothing that stands inside a value that can be written is too long or too deep. -/
theorem Inside.fits (hinside : Inside table around levels v w)
    (h : v.literal room (collectionLiteral table around room) = .ok text) : ¬w.IsLong ∧ levels + w.levels ≤ room := by
  induction hinside generalizing room text with
  | @self around v =>
    have hshort : ¬v.IsLong := fun hlong => by cases (literal_of_isLong hlong).symm.trans h
    refine ⟨hshort, ?_⟩
    unfold literal at h
    split at h
    · cases h
    · next hlevels => omega
  | @held around levels place v w hplace hv _ ih =>
    have hwritten : collectionLiteral table around room place = .ok text := by
      unfold literal at h
      split at h
      · cases h
      · exact h
    unfold collectionLiteral at hwritten
    dsimp only at hwritten
    rw [if_neg hplace] at hwritten
    obtain ⟨part, hpart⟩ := Collection.literal_ok hwritten v hv
    split at hpart
    · obtain ⟨hshort, hlevels⟩ := ih hpart
      exact ⟨hshort, by omega⟩
    · cases hpart

theorem mem_table {place : Nat} (h : v ∈ (collectionAt table place).values) : collectionAt table place ∈ table := by
  unfold collectionAt at h ⊢
  rw [Array.getD_eq_getD_getElem?] at h ⊢
  cases hc : table[place]? with
  | none =>
    rw [hc] at h
    cases h
  | some c => exact Array.mem_of_getElem? hc

/-- What stands inside a value is the value itself, or held by a collection of the table. -/
theorem Inside.eq_or_held (h : Inside table around levels v w) : w = v ∨ ∃ c ∈ table, w ∈ c.values := by
  induction h with
  | self => exact .inl rfl
  | @held around levels place v w _ hv _ ih =>
    rcases ih with rfl | hheld
    · exact .inr ⟨_, mem_table hv, hv⟩
    · exact .inr hheld

end Value

namespace Datum

variable {d : Datum} {c : Collection} {table : Array Collection} {room : Nat} {fault : TextFault}

theorem literal_error (h : d.literal room = .error fault) : d.Unwritable room fault := Value.literal_error h

/-- A datum can be written if and only if there is no reason against it. -/
theorem literal_ok_iff : (∃ text, d.literal room = .ok text) ↔ ∀ fault, ¬d.Unwritable room fault := by
  constructor
  · rintro ⟨text, h⟩ fault hreason
    cases fault with
    | longInteger =>
      obtain ⟨levels, w, hinside, hlong⟩ := hreason
      exact (hinside.fits h).1 hlong
    | tooDeep =>
      obtain ⟨levels, w, hinside, hdeep⟩ := hreason
      have hfits := (hinside.fits h).2
      omega
  · intro h
    cases hliteral : d.literal room with
    | ok text => exact ⟨text, rfl⟩
    | error fault => exact absurd (literal_error hliteral) (h fault)

/-- Without an integer that is too long, what a datum holds can at worst be too deep. -/
theorem HeldIn.short (h : d.HeldIn table) (hlong : ¬HoldsLong table) : ¬d.Unwritable room .longInteger := by
  rintro ⟨levels, w, hinside, hw⟩
  rw [h.table] at hinside
  rcases hinside.eq_or_held with rfl | ⟨c, hc, hheld⟩
  · obtain ⟨c, hc, hheld⟩ := h.held
    exact hlong ⟨c, h.table ▸ hc, _, hheld, hw⟩
  · exact hlong ⟨c, hc, w, hheld, hw⟩

/-! ## Lists inside each other -/

/-- The list at the place `k + 1`, around the one at the next place. -/
def listAround (k : Nat) : Collection := .list [.collection (k + 2)]

/-- A document with one field: so many lists inside each other, around an empty one. -/
def nestedDocument (field : Text) (levels : Nat) : Datum where
  value := .collection 0
  table := (Collection.map [(.text field, .collection 1)] :: (List.range levels).map listAround
    ++ [Collection.list []]).toArray

/-- The outermost list. -/
def nestedLists (field : Text) (levels : Nat) : Datum := { nestedDocument field levels with value := .collection 1 }

section Nested

variable {field : Text} {levels : Nat}

theorem nested_at {k : Nat} (h : k < levels) :
    collectionAt (nestedDocument field levels).table (k + 1) = listAround k := by
  have hlength : k < ((List.range levels).map listAround).length := by simpa using h
  simp [collectionAt, nestedDocument, Array.getD_eq_getD_getElem?, List.getElem?_append_left hlength, h]

theorem nested_short : ¬HoldsLong (nestedDocument field levels).table := by
  rintro ⟨c, hc, v, hv, n, rfl, -⟩
  simp only [nestedDocument, List.cons_append, List.mem_toArray, List.mem_cons, List.mem_append, List.mem_map,
    List.not_mem_nil, or_false] at hc
  rcases hc with rfl | ⟨k, -, rfl⟩ | rfl <;> simp [Collection.values, listAround] at hv

/-- The empty list stands as deep as there are lists around it. -/
theorem nested_inside {around : List Nat} {n k : Nat} (hk : k + n = levels) (haround : ∀ other ∈ around, other ≤ k) :
    Value.Inside (nestedDocument field levels).table around n (.collection (k + 1)) (.collection (levels + 1)) := by
  induction n generalizing around k with
  | zero =>
    rw [← hk]
    exact .self
  | succ n ih =>
    have hlist : collectionAt (nestedDocument field levels).table (k + 1) = listAround k := nested_at (by omega)
    have hbelow : ∀ other ∈ (k + 1) :: around, other ≤ k + 1 :=
      List.forall_mem_cons.mpr ⟨Nat.le_refl _, fun other hother => Nat.le_succ_of_le (haround other hother)⟩
    have hrest := ih (by omega) hbelow
    -- the places of the lists ascend, so no list is entered twice
    have hfresh : k + 1 ∉ around := fun hmem => absurd (haround _ hmem) (by omega)
    have hheld := Value.Inside.held hfresh (hlist ▸ List.mem_singleton_self _) hrest
    rwa [hlist] at hheld

theorem nested_tooDeep (h : room < levels) : (nestedLists field levels).literal room = .error .tooDeep := by
  have hinside :
      Value.Inside (nestedDocument field levels).table [] levels (.collection 1) (.collection (levels + 1)) :=
    nested_inside (Nat.zero_add levels) (List.forall_mem_nil _)
  cases hliteral : (nestedLists field levels).literal room with
  | ok text =>
    have hfits := (hinside.fits hliteral).2
    omega
  | error fault =>
    cases fault with
    | tooDeep => rfl
    | longInteger =>
      -- that reason would be an integer in the table, and the table holds none
      obtain ⟨_, w, hw, hlong⟩ := literal_error hliteral
      rcases hw.eq_or_held with rfl | ⟨c, hc, hheld⟩
      · obtain ⟨n, hn, -⟩ := hlong
        cases hn
      · exact (nested_short ⟨c, hc, w, hheld, hlong⟩).elim

end Nested

/-! ## What a collection gives -/

theorem held_of_collection {v : Value} (hc : d.collection? = some c) (hv : v ∈ c.values) :
    ({ d with value := v } : Datum).HeldIn d.table := by
  unfold collection? at hc
  split at hc
  · cases hc
    exact ⟨rfl, _, Value.mem_table hv, hv⟩
  · cases hc

theorem held_of_items {items : List Datum} (h : d.items? = some items) : ∀ item ∈ items, item.HeldIn d.table := by
  unfold items? at h
  split at h
  · next values hc =>
    cases h
    intro item hmem
    obtain ⟨v, hv, rfl⟩ := List.mem_map.mp hmem
    exact held_of_collection hc hv
  · cases h

theorem held_of_entries {entries : List (Datum × Datum)} (h : d.entries? = some entries) :
    ∀ entry ∈ entries, entry.1.HeldIn d.table ∧ entry.2.HeldIn d.table := by
  unfold entries? at h
  split at h
  · next rows hc =>
    cases h
    intro entry hmem
    obtain ⟨row, hrow, rfl⟩ := List.mem_map.mp hmem
    have hvalues : ∀ v ∈ [row.1, row.2], v ∈ (Collection.map rows).values :=
      fun v hv => List.mem_flatMap.mpr ⟨row, hrow, hv⟩
    exact ⟨held_of_collection hc (hvalues row.1 List.mem_cons_self),
      held_of_collection hc (hvalues row.2 (List.mem_cons_of_mem _ List.mem_cons_self))⟩
  · cases h

theorem mem_of_get? {key : Text} {entries : List (Datum × Datum)} (h : get? key entries = some d) :
    ∃ entry ∈ entries, entry.2 = d := by
  induction entries with
  | nil => cases h
  | cons entry entries ih =>
    have hlater : get? key entries = some d → ∃ entry' ∈ entry :: entries, entry'.2 = d := fun h =>
      (ih h).imp fun _ ⟨hmem, heq⟩ => ⟨List.mem_cons_of_mem _ hmem, heq⟩
    unfold get? at h
    split at h
    · split at h
      · cases h
        exact ⟨entry, List.mem_cons_self, rfl⟩
      · exact hlater h
    · exact hlater h

theorem shown_error (h : d.shown room = .error fault) : d.literal room = .error fault := by
  unfold shown at h
  split at h
  · cases h
  · cases h
  · cases h
  · cases hliteral : d.literal room with
    | ok text =>
      rw [hliteral] at h
      cases h
    | error found =>
      rw [hliteral] at h
      exact congrArg Except.error (Except.error.inj h)

end Datum

end Chip8
