import Chip8.Proofs.Debugger.Trace
import Chip8.Proofs.Debugger.Watchpoints

/-!
# Runs to the first breakpoint

A run is told by its machine alone: the cycles that its machine completes one after the other, and which of them meet
an enabled condition. A run stops at the first cycle that does and nowhere before, unless its limit or a refused cycle
comes earlier. So runs add up: two in a row, the first of which reached its limit, are one.

Main statements: `run_stop`, `goOn_eq_some_iff`, `runWithin_first_hit`.
-/

namespace Chip8

/-! ## Cycles in a row -/

namespace Vm

variable {m m₁ m₂ : Vm} {s : Snapshot} {ss : List Snapshot} {n : Nat}

/-- So many cycles one after the other, with their snapshots. -/
def steps : (n : Nat) → Action (List Snapshot)
  | 0 => return []
  | n + 1 => do
    let s ← step
    return s :: (← steps n)

theorem steps_cons (h : step m = .ok s m₁) (hrest : steps n m₁ = .ok ss m₂) : steps (n + 1) m = .ok (s :: ss) m₂ :=
  (bind_ok h).trans (bind_ok hrest)

theorem steps_succ (h : steps (n + 1) m = .ok ss m₂) :
    ∃ s rest m₁, ss = s :: rest ∧ step m = .ok s m₁ ∧ steps n m₁ = .ok rest m₂ := by
  cases hstep : step m with
  | error fault m₁ =>
    have hrow : steps (n + 1) m = .error fault m₁ := bind_error hstep
    rw [hrow] at h
    cases h
  | ok s m₁ =>
    have hrow : steps (n + 1) m = (steps n >>= fun rest => return s :: rest) m₁ := bind_ok hstep
    rw [hrow] at h
    cases hrest : steps n m₁ with
    | error fault m₃ =>
      rw [bind_error hrest] at h
      cases h
    | ok rest m₃ =>
      rw [bind_ok hrest] at h
      cases h
      exact ⟨s, rest, m₁, rfl, rfl, hrest⟩

end Vm

namespace Debugger

variable {d d' d₁ d₂ : Debugger} {m vm : Vm} {s : Snapshot} {ss : List Snapshot} {fault : Fault} {met : Bool}
  {stop : Stop} {i n limit : Nat} {result : EStateM.Result Fault Debugger Stop}

/-- Whether the cycle after `i` completed ones is completed as well and meets an enabled condition, by what its
instruction did or by where it led. -/
def hitsAt (d : Debugger) (i : Nat) : Bool :=
  match Vm.steps i d.vm with
  | .error _ _ => false
  | .ok _ m =>
    match Vm.step m with
    | .error _ _ => false
    | .ok s _ => d.breakpoints.any fun b => b.enabled && (b.isHit s m.registers || b.isAt s.registers.pc.toNat)

/-- The debugger stands where its machine does after a row of completed cycles, and has them on record. -/
structure Ran (d : Debugger) (ss : List Snapshot) (d' : Debugger) : Prop where
  machine : Vm.steps ss.length d.vm = .ok ss d'.vm
  trace : SameTrace (ss.foldl record d) d'

/-! ## One step -/

theorem isMet_eq (d : Debugger) (s : Snapshot) : d.isMet s
    = d.breakpoints.any fun b => b.enabled && (b.isHit s d.before || b.isAt s.registers.pc.toNat) := by
  rw [Bool.eq_iff_iff, isMet_iff, List.any_eq_true]
  refine exists_congr fun b => and_congr_right fun _ => ?_
  rw [Bool.and_eq_true, Bool.or_eq_true]
  refine and_congr_right fun henabled => or_congr_right ?_
  rw [Breakpoint.isAt, henabled, Bool.true_and, Bool.and_eq_true, decide_eq_true_eq, decide_eq_true_eq]

theorem stepAndCheck_completed (h : Vm.step d.vm = .ok s vm) :
    stepAndCheck d = .ok ((d.recorded vm s).isMet s) (d.recorded vm s) := by
  rw [stepAndCheck_eq, h]

theorem stepAndCheck_refused (h : Vm.step d.vm = .error fault vm) :
    stepAndCheck d = .error fault { d.started with vm } := by
  rw [stepAndCheck_eq, h]

theorem stepAndCheck_ok (h : stepAndCheck d = .ok met d₁) :
    ∃ s vm, Vm.step d.vm = .ok s vm ∧ met = (d.recorded vm s).isMet s ∧ d₁ = d.recorded vm s := by
  cases hstep : Vm.step d.vm with
  | ok s vm =>
    rw [stepAndCheck_completed hstep] at h
    cases h
    exact ⟨s, vm, rfl, rfl, rfl⟩
  | error fault vm =>
    rw [stepAndCheck_refused hstep] at h
    cases h

theorem hitsAt_zero (h : stepAndCheck d = .ok met d₁) : d.hitsAt 0 = met := by
  obtain ⟨s, vm, hstep, rfl, -⟩ := stepAndCheck_ok h
  have hrow : Vm.steps 0 d.vm = .ok [] d.vm := rfl
  rw [hitsAt, hrow, isMet_eq, recorded_before, recorded_breakpoints]
  simp only [hstep]

theorem hitsAt_succ (h : stepAndCheck d = .ok met d₁) (i : Nat) : d.hitsAt (i + 1) = d₁.hitsAt i := by
  obtain ⟨s, vm, hstep, -, rfl⟩ := stepAndCheck_ok h
  rw [hitsAt, hitsAt, recorded_breakpoints]
  show (match (Vm.step >>= fun s => Vm.steps i >>= fun rest => return s :: rest) d.vm with
    | .error _ _ => false
    | .ok _ m => _) = match Vm.steps i vm with
    | .error _ _ => false
    | .ok _ m => _
  rw [bind_ok hstep]
  cases hrest : Vm.steps i vm with
  | error fault m => rw [bind_error hrest]
  | ok rest m => rw [bind_ok hrest]; rfl

theorem Ran.nil (d : Debugger) : Ran d [] d := ⟨rfl, .refl d⟩

theorem Ran.announced (h : Ran d ss d') : Ran d ss d'.announced :=
  ⟨h.machine, h.trace.history, h.trace.latest, h.trace.capacity⟩

theorem Ran.cons (h : stepAndCheck d = .ok met d₁) (hrest : Ran d₁ ss d₂) : ∃ s, Ran d (s :: ss) d₂ := by
  obtain ⟨s, vm, hstep, -, rfl⟩ := stepAndCheck_ok h
  exact ⟨s, Vm.steps_cons hstep hrest.machine, (((SameTrace.started d vm).record s).recordAll ss).trans hrest.trace⟩

/-! ## Steps that pass -/

/-- Steps that pass come before the rest of a row. -/
theorem Passes.ran (h : Passes n d d₁) (hrest : Ran d₁ ss d₂) : ∃ all, all.length = n + ss.length ∧ Ran d all d₂ := by
  induction h with
  | zero d => exact ⟨ss, (Nat.zero_add _).symm, hrest⟩
  | succ hstep _ ih =>
    obtain ⟨all, hlength, hran⟩ := ih hrest
    obtain ⟨s, hran⟩ := Ran.cons hstep hran
    exact ⟨s :: all, by rw [List.length_cons, hlength, Nat.succ_add], hran⟩

/-- The hits after steps that pass are those of the debugger that they leave. -/
theorem Passes.hitsAt_add (h : Passes n d d₁) (i : Nat) : d.hitsAt (n + i) = d₁.hitsAt i := by
  induction h with
  | zero d => rw [Nat.zero_add]
  | succ hstep _ ih => rw [Nat.succ_add, hitsAt_succ hstep, ih]

theorem Passes.not_hit (h : Passes n d d₁) (hi : i < n) : d.hitsAt i = false := by
  induction h generalizing i with
  | zero d => exact absurd hi (Nat.not_lt_zero i)
  | succ hstep _ ih =>
    cases i with
    | zero => exact hitsAt_zero hstep
    | succ i => rw [hitsAt_succ hstep, ih (Nat.lt_of_succ_lt_succ hi)]

/-- Completed cycles none of which is a hit are steps that pass. -/
theorem Passes.of_steps (h : Vm.steps n d.vm = .ok ss m) (hpass : ∀ i < n, d.hitsAt i = false) :
    ∃ d₁, Passes n d d₁ ∧ d₁.vm = m := by
  induction n generalizing d ss with
  | zero =>
    cases h
    exact ⟨d, .zero d, rfl⟩
  | succ n ih =>
    obtain ⟨s, rest, vm, -, hstep, hrest⟩ := Vm.steps_succ h
    have hcheck := stepAndCheck_completed hstep
    rw [(hitsAt_zero hcheck).symm.trans (hpass 0 (Nat.zero_lt_succ n))] at hcheck
    obtain ⟨d₁, hpasses, hvm⟩ := ih (d := d.recorded vm s) hrest fun i hi => by
      rw [← hitsAt_succ hcheck, hpass (i + 1) (Nat.succ_lt_succ hi)]
    exact ⟨d₁, .succ hcheck hpasses, hvm⟩

theorem steps_of_hitsAt (h : d.hitsAt i = true) :
    ∃ ss m s vm, Vm.steps i d.vm = .ok ss m ∧ Vm.step m = .ok s vm := by
  unfold hitsAt at h
  cases hrow : Vm.steps i d.vm with
  | error fault m =>
    rw [hrow] at h
    cases h
  | ok ss m =>
    cases hstep : Vm.step m with
    | error fault vm =>
      simp only [hrow, hstep] at h
      cases h
    | ok s vm => exact ⟨ss, m, s, vm, rfl, hstep⟩

theorem passes_to_hit (hhit : d.hitsAt i = true) (hfirst : ∀ j < i, d.hitsAt j = false) :
    ∃ d₁ d₂, Passes i d d₁ ∧ stepAndCheck d₁ = .ok true d₂ := by
  obtain ⟨ss, m, s, vm, hrow, hstep⟩ := steps_of_hitsAt hhit
  obtain ⟨d₁, hpasses, rfl⟩ := Passes.of_steps hrow hfirst
  have hcheck := stepAndCheck_completed hstep
  have hmet := hpasses.hitsAt_add 0
  rw [Nat.add_zero, hhit, hitsAt_zero hcheck] at hmet
  rw [← hmet] at hcheck
  exact ⟨d₁, _, hpasses, hcheck⟩

theorem Passes.first_hit (h : Passes i d d₁) (hstep : stepAndCheck d₁ = .ok true d₂) :
    d.hitsAt i = true ∧ ∀ j < i, d.hitsAt j = false := by
  have hhit := h.hitsAt_add 0
  rw [Nat.add_zero, hitsAt_zero hstep] at hhit
  exact ⟨hhit, fun j hj => h.not_hit hj⟩

/-! ## Runs -/

theorem Passes.runFrom (h : Passes i d d₁) (ran limit : Nat) :
    runFrom ran (i + limit) d = Debugger.runFrom (ran + i) limit d₁ := by
  induction h generalizing ran with
  | zero d => rw [Nat.zero_add, Nat.add_zero]
  | @succ i d d₁ d₂ hstep _ ih =>
    have hfirst : Debugger.runFrom ran (i + 1 + limit) d = Debugger.runFrom (ran + 1) (i + limit) d₁ := by
      rw [Nat.succ_add]
      exact bind_ok hstep
    rw [hfirst, ih, Nat.add_assoc, Nat.add_comm 1 i]

theorem Passes.run_hit (h : Passes i d d₁) (hi : i < limit) (hstep : stepAndCheck d₁ = .ok true d₂) :
    run limit d = .ok (.hit (i + 1)) d₂.announced := by
  obtain ⟨k, rfl⟩ := Nat.exists_eq_add_of_lt hi
  rw [run, Nat.add_assoc, h.runFrom, Nat.zero_add]
  exact bind_ok hstep

theorem Passes.run_refused (h : Passes i d d₁) (hi : i < limit) (hstep : stepAndCheck d₁ = .error fault d₂) :
    run limit d = .error fault d₂ := by
  obtain ⟨k, rfl⟩ := Nat.exists_eq_add_of_lt hi
  rw [run, Nat.add_assoc, h.runFrom]
  exact bind_error hstep

/-- The result of a run on top of instructions already run. -/
def onTop (ran : Nat) : EStateM.Result Fault Debugger Stop → EStateM.Result Fault Debugger Stop
  | .ok (.hit n) d => .ok (.hit (ran + n)) d
  | .ok (.limit n) d => .ok (.limit (ran + n)) d
  | .error fault d => .error fault d

theorem runFrom_onTop (ran n limit : Nat) (d : Debugger) :
    runFrom (ran + n) limit d = onTop ran (runFrom n limit d) := by
  induction limit generalizing n d with
  | zero => rfl
  | succ limit ih =>
    cases hstep : stepAndCheck d with
    | error fault d₁ =>
      have hrun : ∀ k, runFrom k (limit + 1) d = .error fault d₁ := fun k => bind_error hstep
      rw [hrun, hrun, onTop]
    | ok met d₁ =>
      cases met with
      | true =>
        have hrun : ∀ k, runFrom k (limit + 1) d = .ok (.hit (k + 1)) d₁.announced := fun k => bind_ok hstep
        rw [hrun, hrun, onTop, Nat.add_assoc]
      | false =>
        have hrun : ∀ k, runFrom k (limit + 1) d = runFrom (k + 1) limit d₁ := fun k => bind_ok hstep
        rw [hrun, hrun, Nat.add_assoc, ih]

theorem run_add (h : run limit d = .ok (.limit n) d₁) (more : Nat) :
    run (limit + more) d = onTop limit (run more d₁) := by
  obtain ⟨rfl, hpasses⟩ := run_limit h
  rw [run, hpasses.runFrom, Nat.zero_add]
  exact runFrom_onTop n 0 more d₁

/-- How a run that returns ended: at the first hit, or at its limit without one; and where it stands. -/
theorem run_stop (h : run limit d = .ok stop d') : (∃ ss, ss.length = stop.ran ∧ Ran d ss d')
    ∧ ((∃ i, stop = .hit (i + 1) ∧ i < limit ∧ d.hitsAt i = true ∧ ∀ j < i, d.hitsAt j = false)
      ∨ stop = .limit limit ∧ ∀ j < limit, d.hitsAt j = false) := by
  have hending := run_ending limit d
  rw [h] at hending
  cases hending with
  | @hit i d₁ d₂ hi hpasses hstep =>
    rw [Nat.zero_add]
    obtain ⟨hhit, hfirst⟩ := hpasses.first_hit hstep
    obtain ⟨s, hlast⟩ := Ran.cons hstep (.nil d₂)
    obtain ⟨ss, hlength, hran⟩ := hpasses.ran hlast
    exact ⟨⟨ss, hlength, hran.announced⟩, .inl ⟨i, rfl, hi, hhit, hfirst⟩⟩
  | limit hpasses =>
    rw [Nat.zero_add]
    obtain ⟨ss, hlength, hran⟩ := hpasses.ran (.nil d')
    exact ⟨⟨ss, hlength, hran⟩, .inr ⟨rfl, fun j hj => hpasses.not_hit hj⟩⟩

/-! ## Runs without a limit -/

/-- The run came to an end of its own, and not to its limit. -/
def Final : EStateM.Result Fault Debugger Stop → Prop
  | .ok (.limit _) _ => False
  | .ok (.hit _) _ | .error _ _ => True

/-- A run without a limit has a result exactly if one with a limit ends before it, and it is the same one. -/
theorem goOn_eq_some_iff {ran : Nat} :
    goOn (runFrom · 1) ran d = some result ↔ ∃ limit, runFrom ran limit d = result ∧ Final result := by
  constructor
  -- by the fixed point that defines it: one run with limit one more, and the rest of the runs
  · refine goOn.partial_correctness (runFrom · 1)
      (fun ran d result => ∃ limit, runFrom ran limit d = result ∧ Final result) ?_ ran d result
    intro rest ih ran d result h
    have hending := runFrom_ending ran 1 d
    generalize hfirst : runFrom ran 1 d = first at h hending
    cases hending with
    | limit hpasses =>
      obtain ⟨limit, hrest, hfinal⟩ := ih _ _ _ h
      exact ⟨1 + limit, by rw [hpasses.runFrom, hrest], hfinal⟩
    | hit hi hpasses hstep =>
      cases h
      exact ⟨1, hfirst, trivial⟩
    | refused hi hpasses hstep =>
      cases h
      exact ⟨1, hfirst, trivial⟩
  · rintro ⟨limit, rfl, hfinal⟩
    -- by induction on the limit; a step that passes uses up one of it on both sides
    induction limit generalizing ran d with
    | zero => exact hfinal.elim
    | succ limit ih =>
      rw [goOn]
      cases hstep : stepAndCheck d with
      | error fault d₁ =>
        have hrun : ∀ k, runFrom ran (k + 1) d = .error fault d₁ := fun k => bind_error hstep
        rw [hrun 0, hrun limit]
      | ok met d₁ =>
        cases met with
        | true =>
          have hrun : ∀ k, runFrom ran (k + 1) d = .ok (.hit (ran + 1)) d₁.announced := fun k => bind_ok hstep
          rw [hrun 0, hrun limit]
        | false =>
          have hrun : ∀ k, runFrom ran (k + 1) d = runFrom (ran + 1) k d₁ := fun k => bind_ok hstep
          rw [hrun limit] at hfinal ⊢
          rw [hrun 0]
          exact ih hfinal

theorem runWithin_run {limit : Option Int} (h : runWithin limit d = some result) : ∃ n, run n d = result := by
  cases limit with
  | some n => exact ⟨n.toNat, Option.some_inj.mp h⟩
  | none =>
    obtain ⟨n, hrun, -⟩ := goOn_eq_some_iff.mp h
    exact ⟨n, hrun⟩

theorem Passes.runWithin_refused (h : Passes i d d₁) (hstep : stepAndCheck d₁ = .error fault d₂) {limit : Option Int}
    (hi : ∀ n ∈ limit, (i : Int) < n) : runWithin limit d = some (.error fault d₂) := by
  cases limit with
  | none => exact goOn_eq_some_iff.mpr ⟨i + 1, h.run_refused (Nat.lt_succ_self i) hstep, trivial⟩
  | some n =>
    have hn := hi n rfl
    exact congrArg some (h.run_refused (by omega) hstep)

/-- A run that returns: where it stands, and that it ended at the first hit, or else at its limit before any. -/
theorem runWithin_stop {limit : Option Int} (h : runWithin limit d = some (.ok stop d')) :
    (∃ ss, ss.length = stop.ran ∧ Ran d ss d')
    ∧ ((∃ i, stop = .hit (i + 1) ∧ (∀ n ∈ limit, (i : Int) < n) ∧ d.hitsAt i = true ∧ ∀ j < i, d.hitsAt j = false)
      ∨ ∃ n ∈ limit, stop = .limit n.toNat ∧ ∀ j < n.toNat, d.hitsAt j = false) := by
  cases limit with
  | some n =>
    obtain ⟨hran, hend⟩ := run_stop (Option.some_inj.mp h)
    refine ⟨hran, hend.imp ?_ fun hlimit => ⟨n, rfl, hlimit⟩⟩
    rintro ⟨i, hstop, hi, hhit⟩
    refine ⟨i, hstop, fun k hk => ?_, hhit⟩
    cases hk
    omega
  | none =>
    obtain ⟨limit, hrun, hfinal⟩ := goOn_eq_some_iff.mp h
    obtain ⟨hran, hend⟩ := run_stop hrun
    refine ⟨hran, .inl ?_⟩
    rcases hend with ⟨i, hstop, -, hhit⟩ | ⟨rfl, -⟩
    · exact ⟨i, hstop, nofun, hhit⟩
    · exact hfinal.elim

/-- A run with a limit always has a result. If it returns, so many cycles were completed, of which only the last can be
a hit; it ran no more of them than its limit allows, and either the last one is a hit, or it reached its limit and there
was none. With a limit that is not positive it does nothing. Without a limit it returns exactly if there is a hit, and
right after the first one. A cycle that is refused before the first hit and the limit refuses the run, which then stands
where that cycle left the machine, with the cycles before it on record. And a run that ends without a hit, followed by
another one, is one run. -/
theorem runWithin_first_hit (d : Debugger) :
    (∀ n : Int, ∃ result, runWithin (some n) d = some result)
    ∧ (∀ limit stop d', runWithin limit d = some (.ok stop d') →
      (∃ ss, ss.length = stop.ran ∧ Ran d ss d') ∧ (∀ i, i + 1 < stop.ran → d.hitsAt i = false)
        ∧ (∀ n ∈ limit, (stop.ran : Int) ≤ max 0 n)
        ∧ ((∃ i, stop = .hit (i + 1) ∧ d.hitsAt i = true)
          ∨ ∃ n ∈ limit, stop = .limit stop.ran ∧ (stop.ran : Int) = max 0 n ∧ ∀ i < stop.ran, d.hitsAt i = false))
    ∧ (∀ n ≤ 0, runWithin (some n) d = some (.ok (.limit 0) d))
    ∧ (∀ n, (∃ stop d', runWithin none d = some (.ok stop d') ∧ stop.ran = n)
      ↔ ∃ i, n = i + 1 ∧ d.hitsAt i = true ∧ ∀ j < i, d.hitsAt j = false)
    ∧ (∀ limit ss m fault m', (∀ n ∈ limit, (ss.length : Int) < n) → (∀ i < ss.length, d.hitsAt i = false) →
      Vm.steps ss.length d.vm = .ok ss m → Vm.step m = .error fault m' →
        ∃ d', runWithin limit d = some (.error fault d') ∧ d'.vm = m' ∧ SameTrace (ss.foldl record d) d')
    ∧ ∀ a b n d₁, 0 ≤ a → 0 ≤ b → runWithin (some a) d = some (.ok (.limit n) d₁) →
      runWithin (some (a + b)) d = (runWithin (some b) d₁).map (onTop n) := by
  refine ⟨fun n => ⟨_, rfl⟩, fun limit stop d' h => ?_, fun n hn => ?_, fun n => ⟨?_, ?_⟩, ?_, ?_⟩
  -- the three exits of a run that returns: at a hit, or at its limit without one
  · obtain ⟨hran, ⟨i, rfl, hlimit, hhit, hfirst⟩ | ⟨n, hn, rfl, hnone⟩⟩ := runWithin_stop h
    · refine ⟨hran, fun j hj => hfirst j (Nat.lt_of_succ_lt_succ hj), fun n hn => ?_, .inl ⟨i, rfl, hhit⟩⟩
      have hin := hlimit n hn
      have hran : (Stop.hit (i + 1)).ran = i + 1 := rfl
      omega
    · have hran' : (Stop.limit n.toNat).ran = n.toNat := rfl
      refine ⟨hran, fun j hj => hnone j (by omega), fun k hk => ?_, .inr ⟨n, hn, rfl, by omega, hnone⟩⟩
      cases Option.some_inj.mp (hn.symm.trans hk)
      omega
  · rw [runWithin, Int.toNat_eq_zero.mpr hn]
    rfl
  -- without a limit there is only the exit at a hit
  · rintro ⟨stop, d', h, rfl⟩
    obtain ⟨-, ⟨i, rfl, -, hhit⟩ | ⟨n, hn, -⟩⟩ := runWithin_stop h
    · exact ⟨i, rfl, hhit⟩
    · cases hn
  · rintro ⟨i, rfl, hhit, hfirst⟩
    obtain ⟨d₁, d₂, hpasses, hstep⟩ := passes_to_hit hhit hfirst
    exact ⟨_, _, goOn_eq_some_iff.mpr ⟨i + 1, hpasses.run_hit (Nat.lt_succ_self i) hstep, trivial⟩, rfl⟩
  -- the cycles before the refused one all pass, so the run comes to it
  · intro limit ss m fault m' hlimit hnone hrow hstep
    obtain ⟨d₁, hpasses, rfl⟩ := Passes.of_steps hrow hnone
    obtain ⟨all, hlength, hran⟩ := hpasses.ran (.nil d₁)
    have hmachine := hran.machine
    rw [hlength, List.length_nil, Nat.add_zero, hrow] at hmachine
    cases hmachine
    exact ⟨_, hpasses.runWithin_refused (stepAndCheck_refused hstep) hlimit, rfl, hran.trace.trans (.started d₁ m')⟩
  -- the first run stopped at its limit, so it left off where a longer one would go on
  · intro a b n d₁ ha hb h
    have hrun : run a.toNat d = .ok (.limit n) d₁ := Option.some_inj.mp h
    obtain ⟨rfl, -⟩ := run_limit hrun
    rw [runWithin, Int.toNat_add ha hb, run_add hrun]
    rfl

/-- A debugger of a machine that is two instructions away from where it is to stop. -/
def twoAway : Debugger where
  vm :=
    { registers := { pc := 0 }
      memory := { cells := #[0x60, 5, 0x70, 1, 0x12, 0x00] }
      random := .constant 0 }
  breakpoints := [{ kind := .pcMatch, value := some 4 }]
  before := {}
  capacity := 2

/-- Without a limit it runs two cycles, and the second is the hit. -/
theorem runWithin_first_hit_twoAway : twoAway.hitsAt 0 = false ∧ twoAway.hitsAt 1 = true
    ∧ ∃ stop d', runWithin none twoAway = some (.ok stop d') ∧ stop.ran = 2
      ∧ ∃ ss, ss.length = stop.ran ∧ Ran twoAway ss d' := by
  have hmiss : twoAway.hitsAt 0 = false := by decide +kernel
  have hhit : twoAway.hitsAt 1 = true := by decide +kernel
  obtain ⟨-, hstops, -, hunlimited, -⟩ := runWithin_first_hit twoAway
  have hfirst : ∀ j < 1, twoAway.hitsAt j = false := fun j hj => by rw [Nat.lt_one_iff.mp hj, hmiss]
  obtain ⟨stop, d', hrun, hran⟩ := (hunlimited 2).mpr ⟨1, rfl, hhit, hfirst⟩
  exact ⟨hmiss, hhit, stop, d', hrun, hran, (hstops none stop d' hrun).1⟩

end Debugger

end Chip8
