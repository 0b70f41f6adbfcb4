import Mathlib.Data.List.Forall2
import TapeWasm.Session.Field

/-!
Sessions over time, on any screen whose fields behave as fields do. Messages and ends of runs come in
any order. At most one run is in flight, the field that has the focus gets what is typed, and each
result is the outcome of a run through the pipeline with the texts and the strategy that the session
had when the run was asked for.
-/
namespace TapeWasm

variable {μ π ι σ : Type}

/-- The focus of a field is set and taken away, and what is typed leaves it as it is. -/
structure Widget.Lawful (w : Widget μ π) : Prop where
  isFocused_focus (f : π) : w.isFocused (w.focus f) = true
  isFocused_blur (f : π) : w.isFocused (w.blur f) = false
  isFocused_take (f : π) (m : μ) : w.isFocused (w.take f m) = w.isFocused f

structure Screen.Lawful (screen : Screen μ π ι) : Prop where
  program : screen.program.Lawful
  input : screen.input.Lawful
  /-- A new field has no focus. -/
  unfocused : screen.input.isFocused screen.openInput = false

/-- A result tells what a run through a pipeline has answered. -/
structure SnippetResult.Tells (r : SnippetResult) (reply : Reply) (strategy : Strategy)
    (took : Duration) : Prop where
  fault (f : Fault) : r.fault = some f ↔ reply.result = .error f
  output : r.output = reply.output
  cells : r.cells = reply.memory?.map fun m => leadingCells m 16
  strategy : r.strategy = strategy
  elapsed : r.elapsed = took

theorem Snippet.tells_run (s : Snippet) (p : Pipeline σ) (took : Duration) (state : σ) :
    (s.run p took state).1.Tells
      (p.run patience { name := "repl", source := s.program, strategy := s.strategy } s.input state).1
      s.strategy took where
  fault f := by
    simp only [run]
    split <;> simp [*]
  output := rfl
  cells := rfl
  strategy := rfl
  elapsed := rfl

namespace Session

variable (screen : Screen μ π ι) (host : Host) (p : Pipeline σ)

/-- A result that has come in, with the state that the run found the compiler in. -/
structure Delivery (σ : Type) where
  state : σ
  took : Duration
  result : SnippetResult

/-- A delivery is the outcome of the run that a session asked for, with the texts and the strategy
of that session. -/
def Delivery.IsOutcome (s : Session π ι) (d : Delivery σ) : Prop :=
  d.result.Tells
    (p.run Snippet.patience
      { name := "repl", source := screen.program.text s.program, strategy := s.strategy }
      (screen.input.text s.input) d.state).1
    s.strategy d.took

/-- The session in which an event asks for a run, if it does. -/
def startedBy (s : Session π ι) : Event μ σ → List (Session π ι)
  | .message m => if (s.receive screen host m).2.runs = [] then [] else [s]
  | .finish _ _ _ => []

def Loop.deliveredBy (l : Loop π ι) (e : Event μ σ) : List (Delivery σ) :=
  match e with
  | .message _ => []
  | .finish i state took =>
    if i < l.inFlight.length then
      (l.step screen host p e).session.result.toList.map fun result => { state, took, result }
    else []

/-- A session with all the moments at which it asked for a run, and all results that came in. -/
structure History (π ι σ : Type) where
  loop : Loop π ι
  started : List (Session π ι) := []
  delivered : List (Delivery σ) := []

def History.step (h : History π ι σ) (e : Event μ σ) : History π ι σ where
  loop := h.loop.step screen host p e
  started := h.started ++ h.loop.session.startedBy screen host e
  delivered := h.delivered ++ h.loop.deliveredBy screen host p e

def history (s : Session π ι) (events : List (Event μ σ)) : History π ι σ :=
  events.foldl (History.step screen host p) { loop := { session := s } }

def isFocused (s : Session π ι) : Focus → Bool
  | .program => screen.program.isFocused s.program
  | .input => screen.input.isFocused s.input

/-- Of the two fields, the one that is named has the focus. -/
def Focused (s : Session π ι) : Prop :=
  ∀ f, s.isFocused screen f = true ↔ f = s.focus

/-! What one event does. -/

section Views

variable (s : Session π ι) (m : μ)

@[simp] theorem edit_focus : (s.edit screen m).focus = s.focus := by
  unfold edit
  cases s.focus <;> rfl

@[simp] theorem edit_isRunning : (s.edit screen m).isRunning = s.isRunning := by
  unfold edit
  cases s.focus <;> rfl

@[simp] theorem edit_result : (s.edit screen m).result = s.result := by
  unfold edit
  cases s.focus <;> rfl

@[simp] theorem toggle_isRunning : (s.toggle screen).isRunning = s.isRunning := by
  unfold toggle
  cases s.focus <;> rfl

@[simp] theorem toggle_result : (s.toggle screen).result = s.result := by
  unfold toggle
  cases s.focus <;> rfl

end Views

/-- All that a message can do to the runs of a session: nothing, or ask for one. -/
inductive Received (s : Session π ι) (m : μ) : Session π ι × Demand → Prop
  | quiet {s' : Session π ι} {d : Demand} (runs : d.runs = []) (running : s'.isRunning = s.isRunning)
      (result : s'.result = s.result)
      (kept : screen.control? m = some .start → s.isRunning = true ∧ s' = s) :
      Received s m (s', d)
  | start (asked : screen.control? m = some .start) (idle : s.isRunning = false) :
      Received s m ({ s with isRunning := true }, .run (s.snippet screen))

theorem received (s : Session π ι) (m : μ) : Received screen s m (s.receive screen host m) := by
  unfold receive
  cases hm : screen.control? m with
  | none => exact .quiet rfl (by simp) (by simp) (by simp [hm])
  | some control =>
    cases control with
    | quit => exact .quiet rfl rfl rfl (by simp [hm])
    | toggle => exact .quiet rfl (by simp) (by simp) (by simp [hm])
    | cycle => exact .quiet rfl rfl rfl (by simp [hm])
    | start =>
      cases hs : s.isRunning with
      | true => exact .quiet rfl rfl rfl fun _ => ⟨hs, rfl⟩
      | false => exact .start hm hs

variable {screen} in
theorem Focused.toggle {s : Session π ι} (hscreen : screen.Lawful) :
    (s.toggle screen).Focused screen := by
  intro f
  unfold Session.toggle
  cases s.focus <;> cases f <;>
    simp [isFocused, hscreen.program.isFocused_focus, hscreen.program.isFocused_blur,
      hscreen.input.isFocused_focus, hscreen.input.isFocused_blur]

variable {screen} in
theorem Focused.edit {s : Session π ι} (hscreen : screen.Lawful) (h : s.Focused screen) (m : μ) :
    (s.edit screen m).Focused screen := by
  intro f
  have hkept : (s.edit screen m).isFocused screen f = s.isFocused screen f := by
    unfold Session.edit
    cases s.focus <;> cases f <;>
      simp [isFocused, hscreen.program.isFocused_take, hscreen.input.isFocused_take]
  rw [hkept, edit_focus]
  exact h f

variable {screen} in
theorem Focused.receive {s : Session π ι} (hscreen : screen.Lawful) (h : s.Focused screen)
    (m : μ) : (s.receive screen host m).1.Focused screen := by
  unfold Session.receive
  cases screen.control? m with
  | none => exact h.edit hscreen m
  | some control =>
    cases control with
    | quit | cycle => exact h
    | toggle => exact .toggle hscreen
    | start =>
      dsimp only
      split <;> exact h

/-- What holds of every session and its history. -/
structure History.Lawful (h : History π ι σ) : Prop where
  /-- A run is in flight exactly if one that was asked for has not delivered, and never two. -/
  running : h.loop.session.isRunning = true ↔ h.started.length = h.delivered.length + 1
  idle : h.loop.session.isRunning = false ↔ h.started.length = h.delivered.length
  /-- The start key starts a run, except while one is in flight: then nothing happens. -/
  starts (m : μ) (hm : screen.control? m = some .start) :
    (h.step screen host p (.message m)).started =
      if h.loop.session.isRunning then h.started else h.started ++ [h.loop.session]
  blocked (m : μ) (hm : screen.control? m = some .start) (hrun : h.loop.session.isRunning = true) :
    h.step screen host p (.message m) = h
  focused : h.loop.session.Focused screen
  /-- The field with the focus gets every ordinary message, and the other one none. -/
  ordinary (m : μ) (hm : screen.control? m = none) :
    (h.step screen host p (.message m)).loop.session =
      { h.loop.session with
        program :=
          if screen.program.isFocused h.loop.session.program then
            screen.program.take h.loop.session.program m
          else h.loop.session.program
        input :=
          if screen.input.isFocused h.loop.session.input then
            screen.input.take h.loop.session.input m
          else h.loop.session.input }
  /-- Results come in for the runs in the order they were asked for, each as it was asked for. -/
  outcomes : List.Forall₂ (Delivery.IsOutcome screen p) (h.started.take h.delivered.length)
    h.delivered
  shown : h.loop.session.result = h.delivered.getLast?.map (·.result)

/-- The part of the law that an event keeps by itself: of all runs that were asked for some have
delivered, and the rest, one at most, is in flight. -/
structure History.Accounted (h : History π ι σ) (done pending : List (Session π ι)) : Prop where
  started : h.started = done ++ pending
  delivered : List.Forall₂ (Delivery.IsOutcome screen p) done h.delivered
  inFlight : h.loop.inFlight = pending.map (·.snippet screen)
  count : pending.length = h.loop.session.isRunning.toNat
  shown : h.loop.session.result = h.delivered.getLast?.map (·.result)
  focused : h.loop.session.Focused screen

namespace History

variable {screen host p} {h : History π ι σ} {done pending : List (Session π ι)}

theorem Accounted.message (hscreen : screen.Lawful) (ha : h.Accounted screen p done pending)
    (m : μ) : ∃ pending, (h.step screen host p (.message m)).Accounted screen p done pending := by
  have hfocused := ha.focused.receive host hscreen m
  have hreceived := received screen host h.loop.session m
  have hstep : (h.step screen host p (.message m : Event μ σ)) =
      { loop :=
          { session := (h.loop.session.receive screen host m).1
            inFlight := h.loop.inFlight ++ (h.loop.session.receive screen host m).2.runs }
        started := h.started ++
          if (h.loop.session.receive screen host m).2.runs = [] then [] else [h.loop.session]
        delivered := h.delivered } := by
    simp [step, Loop.step, startedBy, Loop.deliveredBy]
  rw [hstep]
  generalize h.loop.session.receive screen host m = r at hreceived hfocused
  cases hreceived with
  | quiet runs running result kept =>
    refine ⟨pending, ?_, ha.delivered, ?_, ?_, ?_, hfocused⟩
    · simpa [runs] using ha.started
    · simpa [runs] using ha.inFlight
    · exact running ▸ ha.count
    · exact result.trans ha.shown
  | start asked idle =>
    have hnone : pending = [] := by
      have hcount := ha.count
      rw [idle] at hcount
      exact List.length_eq_zero_iff.mp hcount
    subst hnone
    refine ⟨[h.loop.session], ?_, ha.delivered, ?_, rfl, ha.shown, hfocused⟩
    · simp [Demand.runs, ha.started]
    · simp [Demand.runs, ha.inFlight]

theorem Accounted.finish (ha : h.Accounted screen p done pending) (i : Nat) (state : σ)
    (took : Duration) :
    ∃ done pending,
      (h.step screen host p (.finish i state took : Event μ σ)).Accounted screen p done pending := by
  by_cases hi : i < h.loop.inFlight.length
  · have hlength := congrArg List.length ha.inFlight
    have hcount := ha.count
    have hone := h.loop.session.isRunning.toNat_le
    rw [List.length_map] at hlength
    obtain ⟨s, rfl⟩ : ∃ s, pending = [s] := List.length_eq_one_iff.mp (by omega)
    obtain rfl : i = 0 := by simp at hlength; omega
    have hflight : h.loop.inFlight = [s.snippet screen] := ha.inFlight
    have htells : (Delivery.IsOutcome screen p) s
        ⟨state, took, ((s.snippet screen).run p took state).1⟩ := Snippet.tells_run _ p took state
    refine ⟨done ++ [s], [], ?_⟩
    have hstep : (h.step screen host p (.finish 0 state took : Event μ σ)) =
        { loop := { session := h.loop.session.deliver ((s.snippet screen).run p took state).1 }
          started := h.started
          delivered := h.delivered ++ [⟨state, took, ((s.snippet screen).run p took state).1⟩] } := by
      simp [step, Loop.step, startedBy, Loop.deliveredBy, hflight, deliver]
    rw [hstep]
    refine ⟨?_, ?_, rfl, rfl, ?_, ha.focused⟩
    · rw [List.append_nil]
      exact ha.started
    · exact List.rel_append ha.delivered (.cons htells .nil)
    · simp [deliver]
  · have hstep : (h.step screen host p (.finish i state took : Event μ σ)) = h := by
      simp [step, Loop.step, startedBy, Loop.deliveredBy, hi]
    rw [hstep]
    exact ⟨done, pending, ha⟩

theorem Accounted.length (ha : h.Accounted screen p done pending) :
    h.started.length = h.delivered.length + h.loop.session.isRunning.toNat := by
  rw [ha.started, List.length_append, ha.delivered.length_eq, ha.count]

end History

end Session
end TapeWasm
