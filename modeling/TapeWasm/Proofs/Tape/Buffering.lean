import TapeWasm.Proofs.Tape.Walk

/-!
The output of a run. Bytes go to a buffer of a thousand, which is written out when it is full and once
more at the end. So between two symbols the whole buffers have been put out and the rest is in the
buffer, and no byte is stored outside of the buffer, wherever the pointer is.
-/
namespace TapeWasm

open Wasm Emit Machine

/-- Some number of steps, none of them off the tape, leads from one machine to another. -/
abbrev TapeMachine.ReachesOnTape : TapeMachine → TapeMachine → Prop :=
  Relation.ReflTransGen fun t t' => t.OnTape ∧ t.step = some t'

theorem TapeMachine.ReachesOnTape.reaches {t t' : TapeMachine} (h : t.ReachesOnTape t') :
    t.Reaches t' := by
  induction h with
  | refl => exact .refl
  | tail _ hstep ih => exact ih.tail hstep.2

/-- The point of a run at which it follows a tape machine. -/
def pointAt (t : TapeMachine) (cursor : UInt32) (memory : Memory) (output : Array UInt8) : Point :=
  ⟨t.code, t.loops, t.pointer, cursor, ⟨memory, t.input, output⟩⟩

/-- Where the bytes are that a run has put out, given its effects so far: all but the last few were
written out, a thousand in each call, and the rest is in the buffer. -/
structure Delivered (bytes : Bytes) (es : List Effect) (w : Point) : Prop where
  room : w.cursor.toNat < 1000
  kept : (Effect.writes es).flatten ++ w.store.memory.leading w.cursor.toNat = bytes
  whole : ∀ chunk ∈ Effect.writes es, chunk.length = 1000
  calls : (Effect.writes es).length = bytes.length / 1000
  put : w.store.output.toList = bytes.take (1000 * (bytes.length / 1000))

/-- Single bytes are stored in the buffer only, and each write but the last is of a whole buffer. -/
structure WholeButLast (es : List Effect) : Prop where
  stores : ∀ a ∈ Effect.stores es, a < 1000
  writes : ∀ chunk ∈ (Effect.writes es).dropLast, chunk.length = 1000

section Effects

variable {es es' : List Effect} {output output' : Array UInt8}

theorem Emit.Orderly.length_flatten (h : Orderly es output output') :
    (Effect.writes es).flatten.length = 1000 * (Effect.writes es).length := by
  have hmap : (Effect.writes es).map List.length = (Effect.writes es).map fun _ => 1000 :=
    List.map_congr_left h.writes
  rw [List.length_flatten, hmap]
  simp [Nat.mul_comm]

theorem wholeButLast_nil : WholeButLast [] :=
  ⟨nofun, nofun⟩

/-- What holds of a trace holds of the part before any point of it. -/
theorem WholeButLast.before (h : WholeButLast (es ++ es')) : WholeButLast es where
  stores a ha := by
    refine h.stores a ?_
    rw [Effect.stores_append]
    exact List.mem_append_left _ ha
  writes chunk hchunk := by
    refine h.writes chunk ?_
    rw [Effect.writes_append, List.dropLast_append]
    split
    · exact hchunk
    · exact List.mem_append_left _ (List.dropLast_subset _ hchunk)

theorem Emit.Orderly.append_whole (h : Orderly es output output') (h' : WholeButLast es') :
    WholeButLast (es ++ es') where
  stores a ha := by
    rw [Effect.stores_append] at ha
    exact (List.mem_append.mp ha).elim (h.stores a) (h'.stores a)
  writes chunk hchunk := by
    rw [Effect.writes_append, List.dropLast_append] at hchunk
    split at hchunk
    · exact h.writes chunk (List.dropLast_subset _ hchunk)
    · exact (List.mem_append.mp hchunk).elim (h.writes chunk) (h'.writes chunk)

/-- A trace is whole but for its last write if it is so as far as any later machine. -/
theorem wholeButLast_trace {m m' : Machine} (h : Emits host m es m') (hes : WholeButLast es)
    {k : Nat} (hrest : ∀ n < k, WholeButLast (es ++ trace host n m')) :
    WholeButLast (trace host k m) := by
  obtain ⟨j, hj, hrun⟩ := h.exists_run
  -- The run is past the later machine, or its trace is the beginning of the effects up to there.
  by_cases hle : j ≤ k
  · have htrace := (hrun (k - j)).2
    rw [Nat.sub_add_cancel hle] at htrace
    rw [htrace]
    exact hrest (k - j) (by omega)
  · obtain ⟨later, hlater⟩ := @trace_grows host k (j - k) m
    have htrace := (hrun 0).2
    rw [Nat.zero_add, show trace host 0 m' = [] from rfl, List.append_nil] at htrace
    rw [Nat.add_sub_cancel' (by omega), htrace] at hlater
    exact WholeButLast.before (hlater ▸ hes)

end Effects

/-- On the tape or off it, a run stores its output in the buffer and writes whole buffers. -/
theorem Point.Live.trace {w : Point} (h : w.Live) (k : Nat) :
    WholeButLast (trace host k w.machine) := by
  refine h.induction (P := fun k w => WholeButLast (Machine.trace host k w.machine)) ?_ ?_ ?_ k
  · intro k w hlive hbeyond
    obtain ⟨m, r, hsteps, hstep, -, hquiet⟩ := hbeyond.stops hlive.size
    refine wholeButLast_trace hsteps wholeButLast_nil fun n _ => ?_
    rw [trace_of_not_next (by simp [hstep]) hquiet]
    exact wholeButLast_nil
  · -- The buffer need not be full here, but nothing is written after it.
    intro k w hlive hnil
    obtain ⟨m, r, hsteps, hstep, -⟩ := hlive.finishes hnil
    have hlast : WholeButLast [.wrote (w.store.memory.leading w.cursor.toNat)] := ⟨nofun, nofun⟩
    refine wholeButLast_trace hsteps hlast fun n _ => ?_
    rw [trace_of_not_next (by simp [hstep]) (observe_of_finished hstep), List.append_nil]
    exact hlast
  · intro k w w' es hsteps horderly ih
    have hes := horderly.append_whole wholeButLast_nil
    rw [List.append_nil] at hes
    exact wholeButLast_trace hsteps hes fun n hn => horderly.append_whole (ih n hn)

/-! Points on the tape. -/

section OnTape

variable {p : Program} {input : Bytes} {t : TapeMachine} {cursor : UInt32} {memory : Memory}
  {output : Array UInt8}

/-- A run follows the tape machine as long as that stays on the tape. -/
theorem exists_emits_of_reachesOnTape (h : (TapeMachine.start p input).ReachesOnTape t) :
    ∃ cursor memory output es,
      Emits host (initial p.symbols input) es (pointAt t cursor memory output).machine ∧
      Orderly es #[] output ∧ Simulates t cursor memory output := by
  induction h with
  | refl => exact ⟨_, _, _, [], steps_initial p input, .quiet _, simulates_start p input⟩
  | tail _ hstep ih =>
    obtain ⟨_, _, _, _, hsteps, horderly, hsim⟩ := ih
    obtain ⟨_, _, _, _, hsteps', horderly', hsim'⟩ := hsim.step hstep.1 hstep.2
    exact ⟨_, _, _, _, hsteps.trans hsteps', horderly.trans horderly', hsim'⟩

theorem Simulates.live (h : Simulates t cursor memory output) (hnested : t.Nested) :
    (pointAt t cursor memory output).Live :=
  ⟨hnested.code, hnested.loops, h.tape.size, h.buffered.room⟩

theorem Simulates.delivered {es : List Effect} (h : Simulates t cursor memory output)
    (ho : Orderly es #[] output) : Delivered t.output es (pointAt t cursor memory output) := by
  have hput : output.toList = (Effect.writes es).flatten := ho.delivered
  have hkept : (Effect.writes es).flatten ++ memory.leading cursor.toNat = t.output := by
    rw [← hput, h.buffered.eq]
  have hroom := h.buffered.room
  have hlength : t.output.length = 1000 * (Effect.writes es).length + cursor.toNat := by
    rw [← hkept, List.length_append, ho.length_flatten]
    simp [Memory.leading]
  have hcalls : (Effect.writes es).length = t.output.length / 1000 := by omega
  refine ⟨hroom, hkept, ho.writes, hcalls, ?_⟩
  rw [← hcalls, ← ho.length_flatten, ← hkept]
  exact hput.trans List.take_left.symm

/-- At the end the rest of the buffer is written out. -/
theorem Simulates.exists_finished_run {es : List Effect} {m : Machine}
    (h : Simulates t cursor memory output) (hnested : t.Nested) (ho : Orderly es #[] output)
    (hsteps : Emits host m es (pointAt t cursor memory output).machine) (hcode : t.code = []) :
    ∃ k r, run host k m = .finished r ∧ r.store.output.toList = t.output ∧
      (Effect.writes (trace host k m)).length = t.output.length / 1000 + 1 := by
  obtain ⟨last, r, hend, hlast, hput⟩ := (h.live hnested).finishes hcode
  obtain ⟨k, -, hk⟩ := (hsteps.trans hend).exists_run
  obtain ⟨hrun, htrace⟩ := hk 1
  rw [trace_of_not_next (by simp [hlast]) (observe_of_finished hlast), List.append_nil] at htrace
  refine ⟨1 + k, r, ?_, ?_, ?_⟩
  · rw [hrun, run, hlast]
  · rw [hput, ← h.buffered.eq]
    simp [pointAt]
  · rw [htrace, Effect.writes_append, List.length_append, (h.delivered ho).calls]
    rfl

end OnTape

/-- As long as the tape machine stays on the tape, the run of a module has its points between two
symbols, at which the bytes put out are those of the tape machine, the whole buffers of them written
out and the rest in the buffer. A trap there leaves the output as it is, and the end of the program
adds one last write. All along every write but the last is of a whole buffer, and no byte is stored
outside of the buffer. -/
theorem build_buffers_output (p : Program) {m : Module} (hm : build p .wasi = .ok m)
    (input : Bytes) :
    ∃ calls start, launch? m input = some (calls, start) ∧
      (∀ t, (TapeMachine.start p input).ReachesOnTape t →
        ∃ k cursor memory output,
          let w := pointAt t cursor memory output
          run calls k start = .unfinished w.machine ∧
            Delivered t.output (trace calls k start) w ∧
            (w.LoadsBeyond → TrapsWith calls .outOfBounds w.store start) ∧
            (t.code = [] → ∃ k' r, run calls k' start = .finished r ∧
              r.store.output.toList = t.output ∧
              (Effect.writes (trace calls k' start)).length = t.output.length / 1000 + 1)) ∧
      ∀ k, WholeButLast (trace calls k start) := by
  obtain ⟨⟨-, hcheck⟩, rfl⟩ := (build_eq_ok_iff p m).mp hm
  refine ⟨_, _, launch?_moduleOf p.symbols input, fun t ht => ?_, fun k => ?_⟩
  · obtain ⟨cursor, memory, output, es, hsteps, horderly, hsim⟩ :=
      exists_emits_of_reachesOnTape ht
    have hnested := (TapeMachine.nested_start hcheck input).reaches ht.reaches
    obtain ⟨k, -, hk⟩ := hsteps.exists_run
    obtain ⟨hrun, htrace⟩ := hk 0
    rw [show trace host 0 _ = [] from rfl, List.append_nil] at htrace
    refine ⟨0 + k, cursor, memory, output, hrun, ?_, fun hbeyond => ?_, fun hcode => ?_⟩
    · have hdelivered := hsim.delivered horderly
      rwa [← htrace] at hdelivered
    · exact trapsWith_of_reaches hsteps.to_reflTransGen (hbeyond.trapsWith hsim.tape.size)
    · exact hsim.exists_finished_run hnested horderly hsteps hcode
  · refine wholeButLast_trace (Point.steps_start p input) wholeButLast_nil fun n _ => ?_
    exact (Point.live_start hcheck input).trace n

theorem TapeMachine.reachesOnTape_outputs (n : Nat) (cells : Int → UInt32) (input output : Bytes) :
    ReachesOnTape ⟨List.replicate n .output, [], 0, cells, input, output⟩
      ⟨[], [], 0, cells, input, output ++ List.replicate n (cells 0).toUInt8⟩ := by
  induction n generalizing output with
  | zero => exact (List.append_nil output).symm ▸ .refl
  | succ n ih =>
    have htape : (0 : Int) ≤ 0 ∧ (0 : Int) < Layout.standard.cells := by decide
    have hrest := ih (output ++ [(cells 0).toUInt8])
    rw [List.append_assoc, List.singleton_append, ← List.replicate_succ] at hrest
    exact .head ⟨fun _ _ _ _ => htape, rfl⟩ hrest

/-- A program that puts out one byte more than the buffer holds makes two writes. -/
theorem build_buffers_output_dots :
    ∃ m calls start k r, build ⟨List.replicate 1001 46, []⟩ .wasi = .ok m ∧
      launch? m [] = some (calls, start) ∧ run calls k start = .finished r ∧
      r.store.output.toList = List.replicate 1001 0 ∧
      (Effect.writes (trace calls k start)).length = 2 := by
  let p : Program := ⟨List.replicate 1001 46, []⟩
  have hfault : faultFrom p.symbols 0 [] = none := by decide +kernel
  have hbuild : build p .wasi = .ok (moduleOf (Instr.encodeAll (program p.symbols))) := by
    rw [build, hfault]
  have hsymbols : p.symbols.filterMap Symbol.ofByte? = List.replicate 1001 .output := by
    decide +kernel
  have hreach := TapeMachine.reachesOnTape_outputs 1001 (fun _ => 0) [] []
  obtain ⟨calls, start, hlaunch, hpoints, -⟩ := build_buffers_output p hbuild []
  unfold TapeMachine.start at hpoints
  rw [hsymbols] at hpoints
  obtain ⟨-, -, -, -, -, -, -, hend⟩ := hpoints _ hreach
  obtain ⟨k, r, hrun, hput, hcalls⟩ := hend rfl
  refine ⟨_, calls, start, k, r, hbuild, hlaunch, hrun, hput, ?_⟩
  rw [hcalls, List.nil_append, List.length_replicate]

end TapeWasm
