import Chip8.Memory
import Mathlib.Data.List.Induction

/-!
# A memory told from its history

What a memory holds, and what it answers to a call, can be told from the calls that were made to it since it was all
zeros: a byte is what the last call that put one there has put, and the accesses on record are those of the reads and
writes that went well. Nothing else about a memory matters.

Main statements: `Holds.called` and `Holds.logged` (one call), `history_exact` (a run).
-/

namespace Chip8.Memory

inductive Call where
  | load (offset : Int) (data : List UInt8)
  | read (address : Int)
  | write (address value : Int)
  | peek (address : Int)
  | takeLog

/-- What a call gives back. -/
inductive Answer where
  | done
  | byte (data : UInt8)
  | log (accesses : List Access)
  | refused (fault : Fault)

/-- The answer to a call, and the memory after it; a call that is refused has no memory to give. -/
def call (m : Memory) : Call → Answer × Memory
  | .load offset data =>
    match m.load offset data with
    | .ok m' => (.done, m')
    | .error fault => (.refused fault, m)
  | .read address =>
    match m.read address with
    | .ok (data, m') => (.byte data, m')
    | .error fault => (.refused fault, m)
  | .write address value =>
    match m.write address value with
    | .ok m' => (.done, m')
    | .error fault => (.refused fault, m)
  | .peek address =>
    match m.peek address with
    | .ok data => (.byte data, m)
    | .error fault => (.refused fault, m)
  | .takeLog => (.log m.takeLog.1, m.takeLog.2)

def called (m : Memory) (calls : List Call) : Memory := calls.foldl (fun m c => (m.call c).2) m

def answers (m : Memory) : List Call → List Answer
  | [] => []
  | c :: calls => (m.call c).1 :: (m.call c).2.answers calls

def Answer.handedOut : Answer → List Access
  | .log accesses => accesses
  | .done | .byte _ | .refused _ => []

/-! ## What the history tells -/

namespace Call

/-- Whether an address is one of a memory of `n` bytes. -/
def Inside (n : Nat) (address : Int) : Prop := 0 ≤ address ∧ address < n

instance (n : Nat) (address : Int) : Decidable (Inside n address) := inferInstanceAs (Decidable (_ ∧ _))

/-- Why a call to a memory of `n` bytes is refused. -/
def fault? (n : Nat) : Call → Option Fault
  | .load offset data =>
    if offset < 0 ∨ n < offset + data.length then some (.loadOutOfBounds offset data.length n) else none
  | .read address | .peek address => if Inside n address then none else some (.addressOutOfRange address n)
  | .write address value =>
    if Inside n address then if 0 ≤ value ∧ value ≤ 0xFF then none else some (.memoryValue value)
    else some (.addressOutOfRange address n)
  | .takeLog => none

/-- The byte that a call puts at an address `a` of a memory of `n` bytes, if it goes well and covers the address. -/
def puts? (n : Nat) (c : Call) (a : Nat) : Option UInt8 :=
  match c.fault? n, c with
  | none, .load offset data => if offset ≤ a then data[a - offset.toNat]? else none
  | none, .write address value => if address = a then some (UInt8.ofNat value.toNat) else none
  | _, _ => none

/-- The access that a call makes, if it goes well, where `byteAt` tells the bytes that it finds. -/
def access? (n : Nat) (byteAt : Nat → UInt8) (c : Call) : Option Access :=
  match c.fault? n, c with
  | none, .read address =>
    some { kind := .read, address := address.toNat, data := byteAt address.toNat }
  | none, .write address value =>
    some { kind := .write, address := address.toNat, data := UInt8.ofNat value.toNat,
           previous := byteAt address.toNat }
  | _, _ => none

/-- The answer to a call, where `byteAt` tells the bytes and `pending` is the record. -/
def answer (n : Nat) (byteAt : Nat → UInt8) (pending : List Access) (c : Call) : Answer :=
  match c.fault? n, c with
  | some fault, _ => .refused fault
  | none, .load _ _ | none, .write _ _ => .done
  | none, .read address | none, .peek address => .byte (byteAt address.toNat)
  | none, .takeLog => .log pending

end Call

/-- The byte that the last call to cover an address has put there, or zero. -/
def lastByte (n : Nat) (calls : List Call) (a : Nat) : UInt8 :=
  (calls.reverse.findSome? fun c => c.puts? n a).getD 0

/-- The accesses of calls that come after earlier ones. -/
def accessesAfter (n : Nat) (earlier : List Call) : List Call → List Access
  | [] => []
  | c :: calls => (c.access? n (lastByte n earlier)).toList ++ accessesAfter n (earlier ++ [c]) calls

/-- The accesses of calls to a memory of `n` zeros, in order. -/
def accesses (n : Nat) (calls : List Call) : List Access := accessesAfter n [] calls

variable {n : Nat} {byteAt : Nat → UInt8} {m : Memory} {a : Int} {calls earlier : List Call} {c : Call}

theorem lastByte_snoc (k : Nat) :
    lastByte n (calls ++ [c]) k = (c.puts? n k).getD (lastByte n calls k) := by
  unfold lastByte
  rw [List.reverse_append, List.reverse_singleton, List.singleton_append, List.findSome?_cons]
  cases c.puts? n k with
  | none => rfl
  | some data => rfl

theorem accessesAfter_snoc :
    accessesAfter n earlier (calls ++ [c])
      = accessesAfter n earlier calls ++ (c.access? n (lastByte n (earlier ++ calls))).toList := by
  induction calls generalizing earlier with
  | nil => simp [accessesAfter]
  | cons d calls ih =>
    rw [List.cons_append, accessesAfter, accessesAfter, ih, List.append_assoc, List.append_assoc,
      List.singleton_append]

theorem called_snoc (m : Memory) : m.called (calls ++ [c]) = ((m.called calls).call c).2 := by
  unfold called
  rw [List.foldl_append]
  rfl

theorem answers_snoc (m : Memory) : m.answers (calls ++ [c]) = m.answers calls ++ [((m.called calls).call c).1] := by
  induction calls generalizing m with
  | nil => rfl
  | cons d calls ih =>
    rw [List.cons_append, answers, answers, ih, List.cons_append]
    rfl

/-! ## One call -/

/-- The memory has `n` bytes, and `byteAt` tells them. -/
structure Holds (n : Nat) (byteAt : Nat → UInt8) (m : Memory) : Prop where
  size_eq : m.size = n
  byte_eq : ∀ k < n, m.cells[k]? = some (byteAt k)

namespace Holds

theorem cell?_inside (h : Holds n byteAt m) (ha : Call.Inside n a) :
    ∃ hk : a.toNat < m.cells.size, m.cell? a = some ⟨a.toNat, hk⟩ ∧ m.cells[a.toNat] = byteAt a.toNat := by
  have hsize : m.cells.size = n := h.size_eq
  obtain ⟨hlow, hhigh⟩ := ha
  have hk : a.toNat < m.cells.size := by omega
  refine ⟨hk, ?_, ?_⟩
  · unfold cell?
    rw [dif_pos (by omega)]
  · have hbyte := h.byte_eq a.toNat (by omega)
    rw [Array.getElem?_eq_getElem hk] at hbyte
    exact Option.some.inj hbyte

theorem cell?_outside (h : Holds n byteAt m) (ha : ¬Call.Inside n a) : m.cell? a = none := by
  rw [cell?_eq_none_iff, h.size_eq]
  exact ha

theorem peek_eq (h : Holds n byteAt m) :
    m.peek a = if Call.Inside n a then .ok (byteAt a.toNat) else .error (.addressOutOfRange a n) := by
  unfold peek
  by_cases ha : Call.Inside n a
  · obtain ⟨hk, hcell, hbyte⟩ := h.cell?_inside ha
    rw [hcell, if_pos ha]
    exact congrArg Except.ok hbyte
  · rw [h.cell?_outside ha, h.size_eq, if_neg ha]

theorem read_eq (h : Holds n byteAt m) :
    m.read a =
      if Call.Inside n a then
        .ok (byteAt a.toNat,
          { m with log := m.log ++ [{ kind := .read, address := a.toNat, data := byteAt a.toNat }] })
      else .error (.addressOutOfRange a n) := by
  unfold read
  by_cases ha : Call.Inside n a
  · obtain ⟨hk, hcell, hbyte⟩ := h.cell?_inside ha
    rw [hcell, if_pos ha]
    simp only [Fin.getElem_fin, hbyte]
  · rw [h.cell?_outside ha, h.size_eq, if_neg ha]

theorem write_eq (h : Holds n byteAt m) {value : Int} :
    m.write a value =
      if Call.Inside n a then
        if 0 ≤ value ∧ value ≤ 0xFF then m.store a (UInt8.ofNat value.toNat) else .error (.memoryValue value)
      else .error (.addressOutOfRange a n) := by
  unfold write
  by_cases ha : Call.Inside n a
  · obtain ⟨hk, hcell, -⟩ := h.cell?_inside ha
    rw [hcell, if_pos ha]
    by_cases hv : 0 ≤ value ∧ value ≤ 0xFF
    · rw [byte?, if_pos hv, if_pos hv]
    · rw [byte?, if_neg hv, if_neg hv]
  · rw [h.cell?_outside ha, h.size_eq, if_neg ha]

theorem store_eq (h : Holds n byteAt m) (data : UInt8) (ha : Call.Inside n a) :
    ∃ hk : a.toNat < m.cells.size, m.store a data = .ok
      { cells := m.cells.set a.toNat data,
        log := m.log ++ [{ kind := .write, address := a.toNat, data, previous := byteAt a.toNat }] } := by
  obtain ⟨hk, hcell, hbyte⟩ := h.cell?_inside ha
  refine ⟨hk, ?_⟩
  unfold store
  simp only [hcell, Fin.getElem_fin, hbyte]

end Holds

/-- All that a call can do to a memory of `n` bytes that `byteAt` tells. -/
inductive Called (n : Nat) (byteAt : Nat → UInt8) (m : Memory) : Call → Answer × Memory → Prop
  | refused {c : Call} {fault : Fault} (hfault : c.fault? n = some fault) : Called n byteAt m c (.refused fault, m)
  | load {offset : Int} {data : List UInt8} (hlow : 0 ≤ offset) (hfits : offset + data.length ≤ n) :
    Called n byteAt m (.load offset data) (.done, { m with cells := splice m.cells offset.toNat data })
  | read {a : Int} (ha : Call.Inside n a) :
    Called n byteAt m (.read a) (.byte (byteAt a.toNat),
      { m with log := m.log ++ [{ kind := .read, address := a.toNat, data := byteAt a.toNat }] })
  | write {a value : Int} (ha : Call.Inside n a) (hv : 0 ≤ value ∧ value ≤ 0xFF) (hk : a.toNat < m.cells.size) :
    Called n byteAt m (.write a value) (.done,
      { cells := m.cells.set a.toNat (UInt8.ofNat value.toNat),
        log := m.log ++ [{ kind := .write, address := a.toNat, data := UInt8.ofNat value.toNat,
                           previous := byteAt a.toNat }] })
  | peek {a : Int} (ha : Call.Inside n a) : Called n byteAt m (.peek a) (.byte (byteAt a.toNat), m)
  | takeLog : Called n byteAt m .takeLog (.log m.log, { m with log := [] })

theorem Holds.call_cases (h : Holds n byteAt m) (c : Call) : Called n byteAt m c (m.call c) := by
  -- for each call, the checks in the order in which they are made
  cases c with
  | takeLog => exact .takeLog
  | load offset data =>
    rw [call, Memory.load, h.size_eq]
    by_cases hout : offset < 0 ∨ n < offset + data.length
    · rw [if_pos hout]
      exact .refused (if_pos hout)
    · rw [if_neg hout]
      exact .load (by omega) (by omega)
  | read a =>
    rw [call, h.read_eq]
    by_cases ha : Call.Inside n a
    · rw [if_pos ha]
      exact .read ha
    · rw [if_neg ha]
      exact .refused (if_neg ha)
  | write a value =>
    rw [call, h.write_eq]
    by_cases ha : Call.Inside n a
    · rw [if_pos ha]
      by_cases hv : 0 ≤ value ∧ value ≤ 0xFF
      · obtain ⟨hk, hstore⟩ := h.store_eq (UInt8.ofNat value.toNat) ha
        rw [if_pos hv, hstore]
        exact .write ha hv hk
      · rw [if_neg hv]
        exact .refused ((if_pos ha).trans (if_neg hv))
    · rw [if_neg ha]
      exact .refused (if_neg ha)
  | peek a =>
    rw [call, h.peek_eq]
    by_cases ha : Call.Inside n a
    · rw [if_pos ha]
      exact .peek ha
    · rw [if_neg ha]
      exact .refused (if_neg ha)

namespace Call

/-! A call that goes well is refused for no reason. -/

theorem fault?_load {offset : Int} {data : List UInt8} (hlow : 0 ≤ offset) (hfits : offset + data.length ≤ n) :
    (load offset data).fault? n = none := if_neg (by omega)

theorem fault?_read (ha : Inside n a) : (read a).fault? n = none := if_pos ha

theorem fault?_write (ha : Inside n a) {value : Int} (hv : 0 ≤ value ∧ value ≤ 0xFF) :
    (write a value).fault? n = none := (if_pos ha).trans (if_pos hv)

theorem fault?_peek (ha : Inside n a) : (peek a).fault? n = none := if_pos ha

end Call

theorem Called.answer {r : Answer × Memory} (h : Called n byteAt m c r) : r.1 = c.answer n byteAt m.log := by
  unfold Call.answer
  cases h with
  | refused hfault => rw [hfault]
  | load hlow hfits => rw [Call.fault?_load hlow hfits]
  | read ha => rw [Call.fault?_read ha]
  | write ha hv hk => rw [Call.fault?_write ha hv]
  | peek ha => rw [Call.fault?_peek ha]
  | takeLog => rfl

/-- No access is lost: what a call hands out and what is then on record are what was on record and the access that the
call has made. -/
theorem Called.logged {r : Answer × Memory} (h : Called n byteAt m c r) :
    r.1.handedOut ++ r.2.log = m.log ++ (c.access? n byteAt).toList := by
  unfold Call.access?
  cases h with
  | refused hfault => rw [hfault, Option.toList_none, List.append_nil]; rfl
  | load hlow hfits => rw [Call.fault?_load hlow hfits, Option.toList_none, List.append_nil]; rfl
  | read ha => rw [Call.fault?_read ha]; rfl
  | write ha hv hk => rw [Call.fault?_write ha hv]; rfl
  | peek ha => rw [Call.fault?_peek ha, Option.toList_none, List.append_nil]; rfl
  | takeLog => rfl

theorem Called.refused_same {r : Answer × Memory} (h : Called n byteAt m c r) (hc : c.fault? n ≠ none) : r.2 = m := by
  cases h with
  | refused _ => rfl
  | load hlow hfits => exact absurd (Call.fault?_load hlow hfits) hc
  | read ha => exact absurd (Call.fault?_read ha) hc
  | write ha hv hk => exact absurd (Call.fault?_write ha hv) hc
  | peek ha => exact absurd (Call.fault?_peek ha) hc
  | takeLog => exact absurd rfl hc

theorem splice_getElem? {cells : Array UInt8} {offset : Nat} {data : List UInt8} (k : Nat)
    (h : offset + data.length ≤ cells.size) :
    (splice cells offset data)[k]? = if offset ≤ k then data[k - offset]?.or cells[k]? else cells[k]? := by
  have hfront : (cells.extract 0 offset).size = offset := by
    rw [Array.size_extract]
    omega
  unfold splice
  rw [Array.append_assoc, Array.getElem?_append, hfront]
  by_cases hk : k < offset
  · rw [if_pos hk, if_neg (by omega), Array.getElem?_extract_of_lt (by omega)]
    simp
  · rw [if_neg hk, if_pos (by omega), Array.getElem?_append, List.size_toArray, List.getElem?_toArray]
    by_cases hin : k - offset < data.length
    · rw [if_pos hin, List.getElem?_eq_getElem hin, Option.some_or]
    · rw [if_neg hin, List.getElem?_eq_none (by omega), Option.none_or, Array.getElem?_extract]
      by_cases hbehind : k < cells.size
      · rw [if_pos (by omega), show offset + data.length + (k - offset - data.length) = k by omega]
      · rw [if_neg (by omega), Array.getElem?_eq_none (by omega)]

/-- What the memory holds after a call: at each address what the call has put there, or else what was there. -/
theorem Called.holds {r : Answer × Memory} (h : Called n byteAt m c r) (hm : Holds n byteAt m) :
    Holds n (fun k => (c.puts? n k).getD (byteAt k)) r.2 := by
  unfold Call.puts?
  have hsize : m.cells.size = n := hm.size_eq
  cases h with
  | refused hfault => rw [hfault]; exact hm
  | read ha => rw [Call.fault?_read ha]; exact ⟨hm.size_eq, hm.byte_eq⟩
  | peek ha => rw [Call.fault?_peek ha]; exact hm
  | takeLog => exact ⟨hm.size_eq, hm.byte_eq⟩
  | @load offset data hlow hfits =>
    rw [Call.fault?_load hlow hfits]
    have hroom : offset.toNat + data.length ≤ m.cells.size := by omega
    refine ⟨(splice_size hroom).trans hsize, ?_⟩
    -- At an address before or behind the data both sides are what was there.
    intro k hk
    rw [splice_getElem? k hroom, hm.byte_eq k hk]
    simp only
    by_cases hcovered : offset ≤ k
    · rw [if_pos (by omega), if_pos hcovered]
      cases data[k - offset.toNat]? with
      | none => rfl
      | some byte => rfl
    · rw [if_neg (by omega), if_neg hcovered]
      rfl
  | @write a value ha hv hin =>
    rw [Call.fault?_write ha hv]
    refine ⟨(Array.size_set hin).trans hsize, ?_⟩
    intro k hk
    have hlow := ha.1
    rw [Array.getElem?_set, hm.byte_eq k hk]
    simp only
    by_cases hhit : a = k
    · rw [if_pos (by omega), if_pos hhit]
      rfl
    · rw [if_neg (by omega), if_neg hhit]
      rfl

/-! ## All calls -/

theorem Holds.image_eq (h : Holds n byteAt m) : m.image = (List.range n).map byteAt := by
  have hsize : m.cells.size = n := h.size_eq
  apply List.ext_getElem?
  intro k
  rw [image, Array.getElem?_toList, List.getElem?_map]
  by_cases hk : k < n
  · rw [h.byte_eq k hk, List.getElem?_range hk, Option.map_some]
  · rw [Array.getElem?_eq_none (by omega), List.getElem?_eq_none (by rw [List.length_range]; omega), Option.map_none]

theorem ofSize_eq_zeros : ofSize n = .ok (zeros n) ↔ 0 < n ∧ Length.fault? n = none := by
  unfold ofSize
  by_cases hn : (n : Int) ≤ 0
  · rw [if_pos hn]
    refine ⟨nofun, fun ⟨hpos, _⟩ => absurd hn (by omega)⟩
  · rw [if_neg hn, Int.toNat_natCast]
    cases Length.fault? n with
    | none => exact ⟨fun _ => ⟨by omega, rfl⟩, fun _ => rfl⟩
    | some fault => exact ⟨nofun, fun ⟨_, hroom⟩ => nomatch hroom⟩

theorem zeros_holds : Holds n (lastByte n []) (zeros n) where
  size_eq := size_zeros n
  byte_eq := by
    intro k hk
    rw [zeros, Array.getElem?_replicate, if_pos hk]
    rfl

theorem called_holds (n : Nat) (calls : List Call) : Holds n (lastByte n calls) ((zeros n).called calls) := by
  -- by induction from the last call, which alone decides about the bytes that it puts
  induction calls using List.reverseRecOn with
  | nil => exact zeros_holds
  | append_singleton calls c ih =>
    rw [called_snoc, funext lastByte_snoc]
    exact (ih.call_cases c).holds ih

/-- After any calls, the accesses handed out and those on record are the accesses made. -/
theorem called_logged (n : Nat) (calls : List Call) :
    ((zeros n).answers calls).flatMap Answer.handedOut ++ ((zeros n).called calls).log = accesses n calls := by
  induction calls using List.reverseRecOn with
  | nil => rfl
  | append_singleton calls c ih =>
    have hlast := ((called_holds n calls).call_cases c).logged
    have hsplit : accesses n (calls ++ [c]) = accesses n calls ++ (c.access? n (lastByte n calls)).toList :=
      accessesAfter_snoc
    rw [called_snoc, answers_snoc, List.flatMap_append, List.flatMap_singleton, List.append_assoc, hlast,
      ← List.append_assoc, ih, hsplit]

/-- A memory of `n` zeros, after any calls, and any call that comes next. The image still has its `n` bytes, and each is
the one that was last put there; what was handed out of the record and what is on it are the accesses made, in order.
The next call is refused exactly for the reasons of `Call.fault?`, and then changes nothing; otherwise it answers with
the byte that was last put there, or with the record. -/
theorem history_exact (n : Nat) (calls : List Call) (c : Call) :
    let m := (zeros n).called calls
    (ofSize n = .ok (zeros n) ↔ 0 < n ∧ Length.fault? n = none)
    ∧ m.image = (List.range n).map (lastByte n calls)
    ∧ ((zeros n).answers calls).flatMap Answer.handedOut ++ m.log = accesses n calls
    ∧ (m.call c).1 = c.answer n (lastByte n calls) m.log
    ∧ (c.fault? n ≠ none → (m.call c).2 = m) := by
  intro m
  have hm := called_holds n calls
  have hcall := hm.call_cases c
  exact ⟨ofSize_eq_zeros, hm.image_eq, called_logged n calls, hcall.answer, hcall.refused_same⟩

end Chip8.Memory
