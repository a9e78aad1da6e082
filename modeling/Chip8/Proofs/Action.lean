import Chip8.Fault
import Mathlib.Data.List.Forall2

/-!
# Actions

An action may be refused, and leaves a state in either case (`endState`). How the parts of an action run one after the
other, and when the ends of two actions agree: they give the same value or the same fault, and the states that they
leave are related. A result of several parts, which leaves no state, is good if all of its parts are.
-/

namespace Chip8

variable {ε σ ρ α β : Type} {s s' : σ} {t : ρ}

/-! ## Sequences -/

theorem bind_ok {x : EStateM ε σ α} {f : α → EStateM ε σ β} {a : α} (h : x s = .ok a s') :
    (x >>= f) s = f a s' := by
  show EStateM.bind x f s = f a s'
  rw [EStateM.bind, h]

theorem bind_error {x : EStateM ε σ α} {f : α → EStateM ε σ β} {fault : ε} (h : x s = .error fault s') :
    (x >>= f) s = .error fault s' := by
  show EStateM.bind x f s = .error fault s'
  rw [EStateM.bind, h]

theorem bind_get {f : σ → EStateM Fault σ β} : ((get : EStateM Fault σ σ) >>= f) s = f s s := rfl

/-! ## Results that are good -/

section Results

variable {x : Except ε α} {f : α → Except ε β} {b : β} {e : ε}

theorem bind_eq_ok_iff : (x >>= f) = .ok b ↔ ∃ a, x = .ok a ∧ f a = .ok b := by
  cases x with
  | error e => exact ⟨nofun, nofun⟩
  | ok a => exact ⟨fun h => ⟨a, rfl, h⟩, fun ⟨_, ha, h⟩ => by cases ha; exact h⟩

theorem map_eq_ok_iff {g : α → β} : g <$> x = .ok b ↔ ∃ a, x = .ok a ∧ g a = b := by
  cases x with
  | error e => exact ⟨nofun, nofun⟩
  | ok a => exact ⟨fun h => ⟨a, rfl, Except.ok.inj h⟩, fun ⟨_, ha, h⟩ => by cases ha; exact congrArg _ h⟩

theorem bind_eq_error_iff : (x >>= f) = .error e ↔ x = .error e ∨ ∃ a, x = .ok a ∧ f a = .error e := by
  cases x with
  | error e' =>
    constructor
    · exact fun h => .inl (congrArg Except.error (Except.error.inj h))
    · rintro (h | ⟨_, ha, _⟩)
      · exact congrArg Except.error (Except.error.inj h)
      · cases ha
  | ok a =>
    constructor
    · exact fun h => .inr ⟨a, rfl, h⟩
    · rintro (h | ⟨_, ha, h⟩)
      · cases h
      · cases ha
        exact h

theorem mapError_eq_error {ε' : Type} {wrap : ε → ε'} {e : ε'} (h : x.mapError wrap = .error e) :
    ∃ inner, x = .error inner ∧ wrap inner = e := by
  cases x with
  | ok a => cases h
  | error inner => exact ⟨inner, rfl, Except.error.inj h⟩

theorem mapM_eq_ok_iff {l : List α} {bs : List β} :
    l.mapM f = .ok bs ↔ List.Forall₂ (fun a b => f a = .ok b) l bs := by
  induction l generalizing bs with
  | nil =>
    rw [List.mapM_nil]
    constructor
    · intro h
      cases h
      exact .nil
    · rintro ⟨⟩
      rfl
  | cons a l ih =>
    rw [List.mapM_cons, bind_eq_ok_iff]
    constructor
    · rintro ⟨b, hb, h⟩
      obtain ⟨bs', hbs, h⟩ := bind_eq_ok_iff.mp h
      cases h
      exact .cons hb (ih.mp hbs)
    · intro h
      cases h with
      | cons hb hbs => exact ⟨_, hb, bind_eq_ok_iff.mpr ⟨_, ih.mpr hbs, rfl⟩⟩

theorem exists_of_mapM {l : List α} {bs : List β} (h : l.mapM f = .ok bs) : ∀ a ∈ l, ∃ b, f a = .ok b := by
  have hall := mapM_eq_ok_iff.mp h
  clear h
  induction hall with
  | nil => exact List.forall_mem_nil _
  | cons hb _ ih => exact List.forall_mem_cons.mpr ⟨⟨_, hb⟩, ih⟩

theorem mapM_error {l : List α} (h : l.mapM f = .error e) : ∃ a ∈ l, f a = .error e := by
  induction l with
  | nil => cases h
  | cons a l ih =>
    rw [List.mapM_cons] at h
    rcases bind_eq_error_iff.mp h with ha | ⟨b, -, h⟩
    · exact ⟨a, List.mem_cons_self, ha⟩
    · rcases bind_eq_error_iff.mp h with hl | ⟨bs, -, h⟩
      · obtain ⟨a', ha', he⟩ := ih hl
        exact ⟨a', List.mem_cons_of_mem a ha', he⟩
      · cases h

theorem mapM_ok {g : α → β} {l : List α} (h : ∀ a ∈ l, f a = .ok (g a)) : l.mapM f = .ok (l.map g) :=
  mapM_eq_ok_iff.mpr (List.forall₂_map_right_iff.mpr (List.forall₂_same.mpr h))

end Results

/-! ## The states that actions leave -/

/-- The state of a result, that of a refusal too. -/
def stateOf : EStateM.Result Fault σ α → σ
  | .ok _ s | .error _ s => s

/-- The state that an action leaves, completed or refused. -/
def endState (x : EStateM Fault σ α) (s : σ) : σ := stateOf (x s)

theorem endState_ok {x : EStateM Fault σ α} {a : α} (h : x s = .ok a s') : endState x s = s' := by
  rw [endState, h]
  rfl

theorem endState_error {x : EStateM Fault σ α} {fault : Fault} (h : x s = .error fault s') : endState x s = s' := by
  rw [endState, h]
  rfl

/-! ## Ends that agree -/

/-- Two actions end alike: with one value or one fault, in states that are related. -/
inductive SameEnd (R : σ → ρ → Prop) : EStateM.Result Fault σ α → EStateM.Result Fault ρ α → Prop where
  | ok {s : σ} {t : ρ} (a : α) (h : R s t) : SameEnd R (.ok a s) (.ok a t)
  | error {s : σ} {t : ρ} (fault : Fault) (h : R s t) : SameEnd R (.error fault s) (.error fault t)

namespace SameEnd

variable {R : σ → ρ → Prop} {x : EStateM.Result Fault σ α} {y : EStateM.Result Fault ρ α} {a : α} {fault : Fault}

theorem of_ok (h : SameEnd R x y) (hx : x = .ok a s) : ∃ t, y = .ok a t ∧ R s t := by
  subst hx
  cases h with
  | ok _ h => exact ⟨_, rfl, h⟩

theorem of_error (h : SameEnd R x y) (hx : x = .error fault s) : ∃ t, y = .error fault t ∧ R s t := by
  subst hx
  cases h with
  | error _ h => exact ⟨_, rfl, h⟩

end SameEnd

end Chip8
