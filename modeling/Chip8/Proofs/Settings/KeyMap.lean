import Chip8.Proofs.Settings.OfDatum
import Mathlib.Data.List.Nodup

/-!
# Names bound to keys

A key map is a dictionary: binding a name puts it in the place of its old key or at the end, and the other names keep
theirs. So of many bindings the last one of a name counts, and a name that none of them binds keeps its standard key.
The entries of a document bind names in upper case, and are all good or none is taken.

A value stands for a number if it is that integer or a text that is its numeral; nothing else stands for one.

Main statements: `KeyMap.lookup_bindAll`, `Settings.integer_eq_ok_iff`, `Settings.keyMapOf_eq_ok_iff`.
-/

namespace Chip8

/-! ## Binding -/

namespace KeyMap

variable {m : KeyMap} {bindings : List (Text × Nibble)} {name other : Text} {key : Nibble}

/-- The names of a key map, in the order in which they came. -/
def names (m : KeyMap) : List Text := m.map Prod.fst

/-- Binds names one after the other. -/
def bindAll (m : KeyMap) (bindings : List (Text × Nibble)) : KeyMap :=
  bindings.foldl (fun m b => m.bind b.1 b.2) m

theorem lookup_first (p : Text × Nibble) :
    List.lookup other (p :: m) = if other = p.1 then some p.2 else m.lookup other := by
  rw [List.lookup_cons]
  split
  · next h => rw [if_pos (beq_iff_eq.mp h)]
  · next h => rw [if_neg (beq_eq_false_iff_ne.mp h)]

theorem lookup_bind : (m.bind name key).lookup other = if other = name then some key else m.lookup other := by
  induction m with
  | nil => exact lookup_first (name, key)
  | cons p m ih =>
    unfold KeyMap.bind
    split
    · next hname =>
      rw [lookup_first, lookup_first, hname]
      split <;> rfl
    · next hname =>
      -- the name is not the first one, so at most one of the two tests is met
      rw [lookup_first, lookup_first, ih]
      by_cases h : other = name
      · rw [if_pos h, if_pos h, if_neg fun hp => hname (hp.symm.trans h)]
      · rw [if_neg h, if_neg h]

theorem names_bind : (m.bind name key).names = if name ∈ m.names then m.names else m.names ++ [name] := by
  induction m with
  | nil => rfl
  | cons p m ih =>
    unfold KeyMap.bind
    split
    · next hname => simp [names, hname]
    · next hname =>
      have hname' : name ≠ p.1 := fun h => hname h.symm
      unfold names at ih ⊢
      rw [List.map_cons, List.map_cons, ih]
      by_cases h : name ∈ m.map Prod.fst <;> simp [h, hname']

theorem nodup_bind (h : m.names.Nodup) : (m.bind name key).names.Nodup := by
  rw [names_bind]
  split
  · exact h
  · next hname =>
    have hapart : ∀ n ∈ m.names, n ≠ name := fun n hn he => hname (he ▸ hn)
    exact List.nodup_append.mpr ⟨h, List.nodup_singleton name, by simpa using hapart⟩

theorem nodup_bindAll (h : m.names.Nodup) : (m.bindAll bindings).names.Nodup := by
  induction bindings generalizing m with
  | nil => exact h
  | cons b bindings ih => exact ih (nodup_bind h)

/-- Of the bindings of a name the last one counts; without one, the name keeps its key. -/
theorem lookup_bindAll :
    (m.bindAll bindings).lookup name = (bindings.reverse.lookup name).or (m.lookup name) := by
  induction bindings generalizing m with
  | nil => rfl
  | cons b bindings ih =>
    rw [List.reverse_cons, List.lookup_append, Option.or_assoc]
    refine ih.trans (congrArg _ ?_)
    rw [lookup_bind, lookup_first]
    split <;> rfl

theorem names_subset_bindAll : m.names ⊆ (m.bindAll bindings).names := by
  induction bindings generalizing m with
  | nil => exact List.Subset.refl _
  | cons b bindings ih =>
    refine List.Subset.trans ?_ ih
    rw [names_bind]
    split
    · exact List.Subset.refl _
    · exact List.subset_append_left _ _

end KeyMap

/-! ## The entries of a document -/

namespace Settings

variable {entry : Option Datum} {rows : List (Datum × Datum)} {m m' : KeyMap} {name value : Datum} {key : Nibble}

/-- The number that a value stands for: it is that integer, or a text that is its numeral. -/
def StandsFor (d : Datum) (n : Int) : Prop := d.value = .int n ∨ ∃ t, d.value = .text t ∧ integerOf? t = some n

/-- What a row of a key map binds: its name in upper case to the key of its number. -/
def Binds [Room] (row : Datum × Datum) (b : Text × Nibble) : Prop :=
  (∃ name, shown .keyName row.1 = .ok name ∧ b.1 = name.upper) ∧ StandsFor row.2 b.2.val

/-- The rows that a document gives for its key map: none without the section, or if that does not count as given. -/
def keyRows? (entry : Option Datum) : Option (List (Datum × Datum)) :=
  match entry.filter Datum.given with
  | none => some []
  | some d => d.entries?

theorem ofInt?_eq_some_iff {n : Int} : Nibble.ofInt? n = some key ↔ n = key.val := by
  unfold Nibble.ofInt?
  split
  · next h =>
    rw [Option.some_inj, Fin.ext_iff]
    dsimp only
    omega
  · next h =>
    have hkey := key.isLt
    exact ⟨nofun, fun hn => absurd hn (by omega)⟩

variable [Room] {site : Site}

theorem integer_eq_ok_iff {d : Datum} {n : Int} : integer site d = .ok n ↔ StandsFor d n := by
  unfold integer StandsFor
  split
  · next m hm => simp [hm]
  · next t ht => cases hn : integerOf? t <;> simp [ht, hn]
  · next hint htext =>
    constructor
    · intro h
      obtain ⟨_, -, h⟩ := bind_eq_ok_iff.mp h
      cases h
    · rintro (h | ⟨t, h, -⟩)
      · exact absurd h (hint n)
      · exact absurd h (htext t)

theorem padKey_eq_ok_iff : padKey name value = .ok key ↔ StandsFor value key.val := by
  unfold padKey
  rw [bind_eq_ok_iff, ← integer_eq_ok_iff]
  constructor
  · rintro ⟨n, hn, h⟩
    split at h
    · next k hk =>
      cases h
      rw [hn, ofInt?_eq_some_iff.mp hk]
    · obtain ⟨_, -, h⟩ := bind_eq_ok_iff.mp h
      obtain ⟨_, -, h⟩ := bind_eq_ok_iff.mp h
      cases h
  · intro h
    refine ⟨_, h, ?_⟩
    rw [ofInt?_eq_some_iff.mpr rfl]
    rfl

/-- The rows of a key map are taken if each of them binds a name, and then they are bound in their order. -/
theorem bindKeys_eq_ok_iff :
    bindKeys m rows = .ok m' ↔ ∃ bindings, List.Forall₂ Binds rows bindings ∧ m' = m.bindAll bindings := by
  -- by induction on the rows; each is bound on top of those before it
  induction rows generalizing m with
  | nil =>
    constructor
    · intro h
      cases h
      exact ⟨[], .nil, rfl⟩
    · rintro ⟨bindings, h, rfl⟩
      cases h
      rfl
  | cons row rows ih =>
    rw [bindKeys, bind_eq_ok_iff]
    constructor
    · rintro ⟨key, hkey, h⟩
      obtain ⟨name, hname, h⟩ := bind_eq_ok_iff.mp h
      obtain ⟨bindings, hrows, rfl⟩ := ih.mp h
      exact ⟨(name.upper, key) :: bindings, .cons ⟨⟨name, hname, rfl⟩, padKey_eq_ok_iff.mp hkey⟩ hrows, rfl⟩
    · rintro ⟨_, h, rfl⟩
      cases h with
      | @cons _ b _ bindings hrow hrows =>
        obtain ⟨⟨name, hname, hupper⟩, hkey⟩ := hrow
        refine ⟨b.2, padKey_eq_ok_iff.mpr hkey, bind_eq_ok_iff.mpr ⟨name, hname, ?_⟩⟩
        rw [← hupper]
        exact ih.mpr ⟨bindings, hrows, rfl⟩

theorem keyMapOf_eq (entry : Option Datum) : keyMapOf entry = match keyRows? entry with
    | some rows => bindKeys standardKeyMap rows
    | none => .error .keyMapNotMapping := by
  unfold keyMapOf keyRows?
  cases entry.filter Datum.given with
  | none => rfl
  | some d => cases h : d.entries? <;> simp only [h]

/-- The key map of a document is the standard one with the rows bound that it gives. -/
theorem keyMapOf_eq_ok_iff : keyMapOf entry = .ok m
    ↔ ∃ rows bindings, keyRows? entry = some rows ∧ List.Forall₂ Binds rows bindings
      ∧ m = standardKeyMap.bindAll bindings := by
  rw [keyMapOf_eq]
  cases keyRows? entry with
  | none => exact ⟨nofun, fun ⟨_, _, h, _⟩ => nomatch h⟩
  | some rows =>
    dsimp only
    rw [bindKeys_eq_ok_iff]
    constructor
    · rintro ⟨bindings, h⟩
      exact ⟨rows, bindings, rfl, h⟩
    · rintro ⟨_, bindings, hrows, h⟩
      cases hrows
      exact ⟨bindings, h⟩

end Settings

end Chip8
