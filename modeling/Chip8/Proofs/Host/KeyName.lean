import Chip8.Host.KeyName
import Chip8.Proofs.Text.UpperCase

/-!
# Key names in upper case

A name counts as it is written before it counts in upper case. So the name of a key may be none any more when somebody
else has put it into upper case. It never becomes the name of another key if the names that a toolkit knows are plain:
in ASCII, and none of them another one in upper case. Those of the standard toolkit are.

Main statements: `Toolkit.PlainNames`, `resolve_upper`, `standardToolkit_plain`.
-/

namespace Chip8

namespace Host

/-- The code of the key that has a name, in exactly this case. -/
def spelled? [Toolkit] (name : Text) : Option Nat := name.toString? >>= Toolkit.codeOf?

/-- The key names of a toolkit are in ASCII, and a name in upper case is no other name. -/
structure Toolkit.PlainNames [Toolkit] : Prop where
  ascii : ∀ {name code}, spelled? name = some code → ∃ s, name = Text.ofList s ∧ ∀ c ∈ s, c.toNat < 0x80
  apart : ∀ {name code}, spelled? name = some code → name.upper = name ∨ spelled? name.upper = none

theorem map_raised_raised (s : List Char) : (s.map Text.raised).map Text.raised = s.map Text.raised := by
  rw [List.map_map]
  exact List.map_congr_left fun c _ => Text.raised_raised c

theorem upper_upper_ascii {s : List Char} (h : ∀ c ∈ s, c.toNat < 0x80) :
    (Text.ofList s).upper.upper = (Text.ofList s).upper := by
  have hraised : ∀ c ∈ s.map Text.raised, c.toNat < 0x80 := by
    intro c hc
    obtain ⟨d, hd, rfl⟩ := List.mem_map.mp hc
    exact Text.raised_ascii (h d hd)
  rw [Text.upper_ascii h, Text.upper_ascii hraised, map_raised_raised]

section Names

variable [Toolkit] {name : Text} {code : Nat}

theorem resolve_of_spelled (h : spelled? name = some code) : resolve name = .ok code := by
  unfold spelled? at h
  rw [resolve, h]

theorem resolve_of_not_spelled (h : spelled? name = none) :
    resolve name = match spelled? name.upper with
      | some code => .ok code
      | none => .error (.unknownKey name) := by
  unfold spelled? at h
  rw [resolve, h]
  rfl

/-- A name of a key is in upper case a name of the same key, or of none. -/
theorem resolve_upper (hnames : Toolkit.PlainNames) (h : resolve name = .ok code) :
    spelled? name.upper = some code ∧ resolve name.upper = .ok code
      ∨ spelled? name = some code ∧ spelled? name.upper = none
        ∧ resolve name.upper = .error (.unknownKey name.upper) := by
  cases hspelled : spelled? name with
  | some code' =>
    have hcode : code' = code := Except.ok.inj ((resolve_of_spelled hspelled).symm.trans h)
    subst hcode
    -- a name that is spelled so has its own upper case, or one that no name is spelled like
    rcases hnames.apart hspelled with hsame | hunknown
    · rw [hsame]
      exact .inl ⟨hspelled, h⟩
    · obtain ⟨s, rfl, hascii⟩ := hnames.ascii hspelled
      refine .inr ⟨rfl, hunknown, ?_⟩
      rw [resolve_of_not_spelled hunknown, upper_upper_ascii hascii, hunknown]
  | none =>
    rw [resolve_of_not_spelled hspelled] at h
    cases hupper : spelled? name.upper with
    | some code' =>
      rw [hupper] at h
      cases h
      exact .inl ⟨rfl, resolve_of_spelled hupper⟩
    | none =>
      rw [hupper] at h
      cases h

end Names

/-! ## The names of the standard toolkit -/

section Standard

variable {name : Text} {code : Nat}

/-- The key names as bytes. -/
def spellings : List (List Nat) := keyNames.map fun p => Text.bytesOf p.1

/-- The key names that are in upper case. -/
def capitals : List (List Nat) := spellings.filter fun s => s.map Text.raisedNumber == s

/-- Whether a name is in ASCII, and is in upper case or else no name any more in upper case. Names in upper case are
short, so that a long one need not be looked for among them. -/
def staysApart (s : List Nat) : Bool :=
  s.all (fun b => b < 0x80)
    && (s.map Text.raisedNumber == s || 5 < s.length || !capitals.contains (s.map Text.raisedNumber))

theorem spellings_apart : spellings.all staysApart = true := by decide +kernel

theorem capitals_short : (capitals.all fun s => s.length ≤ 5) = true := by decide +kernel

theorem mem_spellings (h : spelled? name = some code) :
    ∃ string, name = Text.ofList string.toList ∧ Text.bytesOf string ∈ spellings := by
  obtain ⟨string, hstring, hcode⟩ := Option.bind_eq_some_iff.mp h
  obtain ⟨before, later, hnames, -⟩ := List.lookup_eq_some_iff.mp hcode
  refine ⟨string, Text.of_toString? hstring, List.mem_map_of_mem (a := (string, code)) ?_⟩
  rw [hnames]
  exact List.mem_append_right before List.mem_cons_self

theorem spelled_ascii {string : String} (h : Text.bytesOf string ∈ spellings) :
    Text.bytesOf string = string.toList.map Char.toNat ∧ ∀ c ∈ string.toList, c.toNat < 0x80 := by
  have hapart := (Bool.and_eq_true_iff.mp (List.all_eq_true.mp spellings_apart _ h)).1
  have hbytes : ∀ b ∈ Text.bytesOf string, b < 0x80 := fun b hb => of_decide_eq_true (List.all_eq_true.mp hapart b hb)
  have hchars := Text.bytesOf_ascii hbytes
  refine ⟨hchars, fun c hc => hbytes c.toNat ?_⟩
  rw [hchars]
  exact List.mem_map_of_mem hc

/-- A name that is not in upper case is no name any more in upper case. -/
theorem spelled_apart {s : List Nat} (h : s ∈ spellings) :
    s.map Text.raisedNumber = s ∨ s.map Text.raisedNumber ∉ capitals := by
  have hapart := (Bool.and_eq_true_iff.mp (List.all_eq_true.mp spellings_apart _ h)).2
  rcases Bool.or_eq_true_iff.mp hapart with hapart | hother
  · rcases Bool.or_eq_true_iff.mp hapart with hsame | hlong
    · exact .inl (eq_of_beq hsame)
    · refine .inr fun hcapital => ?_
      have hshort := of_decide_eq_true (List.all_eq_true.mp capitals_short _ hcapital)
      have hlong := of_decide_eq_true hlong
      rw [List.length_map] at hshort
      omega
  · exact .inr fun hcapital => by
      rw [List.contains_iff_mem.mpr hcapital] at hother
      cases hother

theorem map_raised (s : List Char) : (s.map Text.raised).map Char.toNat = (s.map Char.toNat).map Text.raisedNumber := by
  rw [List.map_map, List.map_map]
  exact List.map_congr_left fun c _ => Text.toNat_raised c

/-- A name in upper case that is known is in upper case already. -/
theorem spelled_upper (h : spelled? name = some code) : name.upper = name ∨ spelled? name.upper = none := by
  obtain ⟨string, rfl, hstring⟩ := mem_spellings h
  obtain ⟨hbytes, hascii⟩ := spelled_ascii hstring
  rw [Text.upper_ascii hascii]
  rcases spelled_apart hstring with hsame | hapart
  · rw [hbytes, ← map_raised] at hsame
    exact .inl (congrArg Text.ofList ((List.map_inj_right fun _ _ => Char.toNat_inj.mp).mp hsame))
  · refine .inr (Option.eq_none_iff_forall_ne_some.mpr fun code' hcode' => hapart ?_)
    -- a name that is in upper case and known would be among the capital ones
    obtain ⟨string', hname', hstring'⟩ := mem_spellings hcode'
    have hchars : string.toList.map Text.raised = string'.toList := by
      have hlists := congrArg Text.toList? hname'
      rw [Text.toList?_ofList, Text.toList?_ofList] at hlists
      exact Option.some.inj hlists
    have hbytes' : (Text.bytesOf string).map Text.raisedNumber = Text.bytesOf string' := by
      rw [(spelled_ascii hstring').1, hbytes, ← map_raised, hchars]
    have hfixed : (Text.bytesOf string').map Text.raisedNumber = Text.bytesOf string' := by
      rw [(spelled_ascii hstring').1, ← map_raised, ← hchars, map_raised_raised]
    rw [hbytes']
    exact List.mem_filter.mpr ⟨hstring', beq_iff_eq.mpr hfixed⟩

theorem standardToolkit_plain : Toolkit.PlainNames where
  ascii h := by
    obtain ⟨string, hname, hstring⟩ := mem_spellings h
    exact ⟨string.toList, hname, (spelled_ascii hstring).2⟩
  apart := spelled_upper

end Standard

end Host

end Chip8
