import TapeWasm.Proofs.Build.Calls

/-!
The history of a build. Its state moves one step at a time and never back, a call that fails leaves
no trace, one last action is done at most, and what the build holds always stems from the request
through the stages in their order.
-/
namespace TapeWasm

variable {σ : Type}

theorem BuildState.rank_next {s : BuildState} (h : s ≠ .terminal) : s.next.rank = s.rank + 1 := by
  cases s <;> first | rfl | exact absurd rfl h

namespace Build

def stageNames : List String :=
  ["parse", "generate", "validate", "optimize", "compile"]

/-- Where the module of a build in a state comes from: a generator made `origin` for the program, a
validator has accepted it once the build is validated, and an optimizer has replaced it with the
module once the build is optimized. -/
structure MadeFrom (past : List (Transition σ)) (state : BuildState) (program : Program)
    (origin module : Bytes) : Prop where
  generated : ∃ t ∈ past, t.call.action = .generate ∧
    t.call.pipeline.generate program = .ok origin
  validated : BuildState.validated.rank ≤ state.rank →
    ∃ t ∈ past, t.call.action = .validate ∧ t.call.pipeline.validate origin = .ok ()
  kept : state.rank < BuildState.optimized.rank → module = origin
  optimized : BuildState.optimized.rank ≤ state.rank →
    ∃ t ∈ past, ∃ a, t.call.action = .optimize a ∧
      t.call.pipeline.optimizer.apply a origin = .ok module

/-- What a build holds after some calls: all of it stems from the request. The names of its stages
are those of the stages up to its state, and of the last action once that is done. -/
structure Consistent (request : Request) (past : List (Transition σ)) (b : Build) : Prop where
  asked : b.request = request
  program : BuildState.parsed.rank ≤ b.state.rank → Program.parse request.source = .ok b.program
  module : BuildState.generated.rank ≤ b.state.rank →
    ∃ origin, MadeFrom past b.state b.program origin b.module
  artifact : ∀ h, b.artifact = some h →
    BuildState.compiled.rank ≤ b.state.rank ∧
      ∃ t ∈ past, ∃ a, t.call.action = .compile a ∧
        t.call.pipeline.compiler.compile a b.module request.strategy t.found = (.ok h, t.left)
  stages : b.state ≠ .terminal → b.stages = stageNames.take b.state.rank
  last : b.state = .terminal →
    ∃ t ∈ past, ∃ body, t.call.action.body? t.call.pipeline = some body ∧
      b.stages = stageNames ++ [t.call.action.name]

section Consistency

variable {request : Request} {past past' : List (Transition σ)} {b : Build} {c : Call σ} {s : σ}
  {state state' : BuildState} {program : Program} {origin module : Bytes}

theorem MadeFrom.mono (h : MadeFrom past state program origin module) (hsub : past ⊆ past') :
    MadeFrom past' state program origin module where
  generated := by
    obtain ⟨t, ht, hwork⟩ := h.generated
    exact ⟨t, hsub ht, hwork⟩
  validated hr := by
    obtain ⟨t, ht, hwork⟩ := h.validated hr
    exact ⟨t, hsub ht, hwork⟩
  kept := h.kept
  optimized hr := by
    obtain ⟨t, ht, hwork⟩ := h.optimized hr
    exact ⟨t, hsub ht, hwork⟩

/-- From an optimized module on the states do not touch the module. -/
theorem MadeFrom.later (h : MadeFrom past state program origin module)
    (hs : BuildState.optimized.rank ≤ state.rank) (hs' : state.rank ≤ state'.rank) :
    MadeFrom past state' program origin module where
  generated := h.generated
  validated _ := h.validated (Nat.le_of_succ_le hs)
  kept hlt := absurd (Nat.le_trans hs hs') (Nat.not_le.mpr hlt)
  optimized _ := h.optimized hs

theorem Consistent.mono (h : b.Consistent request past) (hsub : past ⊆ past') :
    b.Consistent request past' where
  asked := h.asked
  program := h.program
  module hr := by
    obtain ⟨origin, hm⟩ := h.module hr
    exact ⟨origin, hm.mono hsub⟩
  artifact artifact ha := by
    obtain ⟨hr, t, ht, hwork⟩ := h.artifact artifact ha
    exact ⟨hr, t, hsub ht, hwork⟩
  stages := h.stages
  last hs := by
    obtain ⟨t, ht, hbody⟩ := h.last hs
    exact ⟨t, hsub ht, hbody⟩

theorem consistent_start (request : Request) (past : List (Transition σ)) :
    (start request).Consistent request past where
  asked := rfl
  program hr := absurd hr (Nat.not_succ_le_zero 0)
  module hr := absurd hr (Nat.not_succ_le_zero 1)
  artifact _ ha := by cases ha
  stages _ := rfl
  last hs := by cases hs

theorem Consistent.stages_concat (h : b.Consistent request past) {due : BuildState} {name : String}
    (hdue : b.state = due) (hname : stageNames[due.rank]? = some name) :
    b.stages ++ [name] = stageNames.take due.next.rank := by
  have hne : due ≠ .terminal := by
    rintro rfl
    cases hname
  rw [h.stages (hdue ▸ hne), hdue, BuildState.rank_next hne, List.take_add_one, hname]
  rfl

/-- A stage before compilation that gives a build its program and its module. -/
theorem Consistent.stage (h : b.Consistent request past) {due : BuildState} {name : String}
    (hdue : b.state = due) (hname : stageNames[due.rank]? = some name)
    (hlt : due.next.rank < BuildState.compiled.rank)
    (hprogram : Program.parse request.source = .ok program)
    (hmodule : BuildState.generated.rank ≤ due.next.rank →
      ∃ origin, MadeFrom past due.next program origin module) :
    { b with program, module, state := due.next, stages := b.stages ++ [name] }.Consistent
      request past where
  asked := h.asked
  program _ := hprogram
  module := hmodule
  artifact artifact ha := by
    have hr := (h.artifact artifact ha).1
    rw [hdue] at hr
    exact absurd (Nat.le_trans hr due.rank_le_next) (Nat.not_le.mpr hlt)
  stages _ := h.stages_concat hdue hname
  last hs := by
    have hs : due.next = .terminal := hs
    rw [hs] at hlt
    exact absurd hlt (by decide)

theorem Consistent.change {t : Transition σ} (h : t.before.Consistent request past)
    (hchange : Change t.call.pipeline t.before t.found t.call.action t.after t.left) :
    t.after.Consistent request (past ++ [t]) := by
  have h := h.mono (List.subset_append_left past [t])
  have hmem : t ∈ past ++ [t] := List.mem_concat_self
  have hprogram (hr : BuildState.parsed.rank ≤ t.before.state.rank) := h.program hr
  obtain ⟨⟨p, action⟩, b, s, b', reply, s'⟩ := t
  dsimp only at hchange h hprogram ⊢
  cases hchange with
  | none | uncompiled => exact h
  | parsed due work =>
    exact h.stage due rfl (by decide) (h.asked ▸ work) fun hr => absurd hr (by decide)
  | @generated module due work =>
    refine h.stage due rfl (by decide) (hprogram (due.symm ▸ by decide)) fun _ => ⟨module, ?_⟩
    exact ⟨⟨_, hmem, rfl, work⟩, fun hr => absurd hr (by decide), fun _ => rfl,
      fun hr => absurd hr (by decide)⟩
  | validated due work =>
    obtain ⟨origin, hm⟩ := h.module (due.symm ▸ by decide)
    have hkept := hm.kept (due.symm ▸ by decide)
    refine h.stage due rfl (by decide) (hprogram (due.symm ▸ by decide)) fun _ => ⟨origin, ?_⟩
    exact ⟨hm.generated, fun _ => ⟨_, hmem, rfl, hkept ▸ work⟩, fun _ => hkept,
      fun hr => absurd hr (by decide)⟩
  | @optimized a _ due work =>
    obtain ⟨origin, hm⟩ := h.module (due.symm ▸ by decide)
    have hkept := hm.kept (due.symm ▸ by decide)
    refine h.stage due rfl (by decide) (hprogram (due.symm ▸ by decide)) fun _ => ⟨origin, ?_⟩
    exact ⟨hm.generated, fun _ => hm.validated (due.symm ▸ by decide),
      fun hr => absurd hr (by decide), fun _ => ⟨_, hmem, a, rfl, hkept ▸ work⟩⟩
  | @compiled a _ _ due work =>
    obtain ⟨origin, hm⟩ := h.module (due.symm ▸ by decide)
    refine ⟨h.asked, fun _ => hprogram (due.symm ▸ by decide), fun _ => ⟨origin, ?_⟩, ?_, ?_, nofun⟩
    · exact hm.later (due.symm ▸ by decide) (due.symm ▸ Nat.le_succ _)
    · intro artifact ha
      obtain rfl := Option.some.inj ha
      exact ⟨Nat.le_refl _, _, hmem, a, rfl, h.asked ▸ work⟩
    · exact fun _ => h.stages_concat due rfl
  | @acted _ body _ last due held =>
    obtain ⟨origin, hm⟩ := h.module (due.symm ▸ by decide)
    have hnames := h.stages (due.symm ▸ by decide)
    refine ⟨h.asked, fun _ => hprogram (due.symm ▸ by decide), fun _ => ⟨origin, ?_⟩, ?_,
      fun hs => absurd rfl hs, fun _ => ⟨_, hmem, body, last, ?_⟩⟩
    · exact hm.later (due.symm ▸ by decide) (due.symm ▸ Nat.le_succ _)
    · exact fun artifact ha => ⟨Nat.le_succ _, (h.artifact artifact ha).2⟩
    · rw [hnames, due]
      rfl
  | released held => exact ⟨h.asked, h.program, h.module, nofun, h.stages, h.last⟩

/-- What a build holds is consistent after any calls. -/
theorem consistent_afterCalls (request : Request) (calls : List (Call σ)) (s : σ) :
    ((start request).afterCalls calls s).1.Consistent request
      ((start request).history calls s) :=
  afterCalls_induction (P := fun past b _ => b.Consistent request past)
    (consistent_start request []) calls fun _ _ _ _ _ h hchange => h.change hchange

end Consistency
end Build

namespace Transition

/-- The body of a last action answers the call. -/
def acts (t : Transition σ) : Bool :=
  (t.call.action.body? t.call.pipeline).isSome && decide (t.before.state = .compiled) &&
    t.before.artifact.isSome

theorem acts_iff {t : Transition σ} :
    t.acts ↔ (t.call.action.body? t.call.pipeline).isSome ∧ t.before.state = .compiled ∧
      t.before.artifact.isSome := by
  simp [acts, and_assoc]

/-- The laws of a single call. -/
structure Lawful (t : Transition σ) : Prop where
  /-- The state does not go back, and goes on by one at most. -/
  forward : t.before.state.rank ≤ t.after.state.rank ∧
    t.after.state.rank ≤ t.before.state.rank + 1
  /-- A call out of turn is refused and leaves no trace. -/
  refused : ¬ t.before.Admits t.call.action →
    t.after = t.before ∧ t.left = t.found ∧ ∃ due, t.call.action.due? = some due ∧
      t.reply = .refused (.invalidState (t.before.standing due) due.next.name)
  /-- A stage whose work fails answers with its fault and leaves no trace in the build. -/
  failed : ∀ due work f s, t.call.action.stage? t.call.pipeline = some (due, work) →
    t.before.state = due → work t.before t.found = (.error f, s) →
      t.after = t.before ∧ t.reply = .refused f ∧ t.left = s
  /-- A stage whose work succeeds takes the build on. -/
  done : ∀ due work b s, t.call.action.stage? t.call.pipeline = some (due, work) →
    t.before.state = due → work t.before t.found = (.ok b, s) →
      t.after = { b with state := due.next, stages := t.before.stages ++ [t.call.action.name] } ∧
        t.reply = .ok ∧ t.left = s
  /-- A last action runs its body on the artifact of a compiled build, which is used up by that
  whatever the body answers; on any other build it is refused. -/
  last : ∀ body, t.call.action.body? t.call.pipeline = some body →
    (∃ h, t.before.state = .compiled ∧ t.before.artifact = some h ∧ t.acts ∧
      t.after.state = .terminal ∧ (t.reply, t.left) = body t.before h t.found) ∨
    (¬ t.acts ∧ t.after = t.before ∧ t.left = t.found ∧
      t.reply = .refused (.invalidState (t.before.standing .compiled) BuildState.terminal.name))
  /-- A build that is closed keeps all but its artifact. -/
  closed : t.call.action = .close → t.after = { t.before with artifact := none }

end Transition

namespace Build

variable {p : Pipeline σ} {b b' : Build} {action : Action} {s s' : σ}

theorem Change.rank (h : Change p b s action b' s') :
    b.state.rank ≤ b'.state.rank ∧ b'.state.rank ≤ b.state.rank + 1 := by
  cases h with
  | parsed due | generated due | validated due | optimized due | compiled due | acted _ due =>
    rw [due]
    exact ⟨Nat.le_succ _, Nat.le_refl _⟩
  | none | uncompiled | released => exact ⟨Nat.le_refl _, Nat.le_succ _⟩

theorem lawful_last (b : Build) (c : Call σ) (s : σ) (body : Build → Handle → σ → Reply × σ)
    (hbody : c.action.body? c.pipeline = some body) :
    let t := b.transition c s
    (∃ h, b.state = .compiled ∧ b.artifact = some h ∧ t.acts ∧ t.after.state = .terminal ∧
      (t.reply, t.left) = body b h s) ∨
    (¬ t.acts ∧ t.after = b ∧ t.left = s ∧
      t.reply = .refused (.invalidState (b.standing .compiled) BuildState.terminal.name)) := by
  by_cases hturn : b.state = .compiled ∧ b.artifact.isSome
  · obtain ⟨h, hh⟩ := Option.isSome_iff_exists.mp hturn.2
    have hperform := perform_of_body hbody hturn.1 hh s
    have hacts : (b.transition c s).acts :=
      Transition.acts_iff.mpr ⟨Option.isSome_iff_exists.mpr ⟨body, hbody⟩, hturn⟩
    exact .inl ⟨h, hturn.1, hh, hacts, congrArg (·.build.state) hperform,
      congrArg (fun r => (r.reply, r.state)) hperform⟩
  · have hadmits : ¬ b.Admits c.action := by
      intro hadmits
      obtain ⟨hstate, hheld⟩ := hadmits .compiled (Action.due?_of_body? hbody)
      exact hturn ⟨hstate, hheld rfl⟩
    obtain ⟨due, hdue, hperform⟩ := perform_of_not_admits hadmits c.pipeline s
    obtain rfl := Option.some.inj (hdue.symm.trans (Action.due?_of_body? hbody))
    exact .inr ⟨fun hacts => hturn (Transition.acts_iff.mp hacts).2,
      congrArg Performed.build hperform, congrArg Performed.state hperform,
      congrArg Performed.reply hperform⟩

theorem lawful_transition (b : Build) (c : Call σ) (s : σ) : (b.transition c s).Lawful where
  forward := (change_perform c.pipeline b c.action s).rank
  refused hadmits := by
    obtain ⟨due, hdue, hperform⟩ := perform_of_not_admits hadmits c.pipeline s
    exact ⟨congrArg Performed.build hperform, congrArg Performed.state hperform, due, hdue,
      congrArg Performed.reply hperform⟩
  failed due work f s' hstage hdue hwork := by
    have hperform := perform_of_work_error hstage hdue hwork
    exact ⟨congrArg Performed.build hperform, congrArg Performed.reply hperform,
      congrArg Performed.state hperform⟩
  done due work b' s' hstage hdue hwork := by
    have hperform := perform_of_work_ok hstage hdue hwork
    exact ⟨congrArg Performed.build hperform, congrArg Performed.reply hperform,
      congrArg Performed.state hperform⟩
  last := lawful_last b c s
  closed hclose := by
    have hclose : c.action = .close := hclose
    change (b.perform c.pipeline c.action s).build = { b with artifact := none }
    rw [hclose, perform, close]
    cases ha : b.artifact with
    | none => simp [← ha]
    | some a => rfl

/-- The body of a last action is run on a compiled build only, and uses it up. -/
theorem state_of_acts {c : Call σ} (h : (b.transition c s).acts) :
    b.state = .compiled ∧ (b.transition c s).after.state = .terminal := by
  obtain ⟨body, hbody⟩ := Option.isSome_iff_exists.mp (Transition.acts_iff.mp h).1
  rcases lawful_last b c s body hbody with ⟨a, hstate, -, -, hused, -⟩ | ⟨hidle, -⟩
  · exact ⟨hstate, hused⟩
  · exact absurd h hidle

theorem countP_acts_of_terminal {calls : List (Call σ)}
    (h : BuildState.terminal.rank ≤ b.state.rank) :
    (b.history calls s).countP Transition.acts = 0 := by
  induction calls generalizing b s with
  | nil => rfl
  | cons c calls ih =>
    have hidle : ¬ (b.transition c s).acts := by
      intro hacts
      rw [(state_of_acts hacts).1] at h
      exact absurd h (by decide)
    rw [history, List.countP_cons_of_neg hidle]
    exact ih (Nat.le_trans h (change_perform c.pipeline b c.action s).rank.1)

theorem countP_acts_le_one (b : Build) (calls : List (Call σ)) (s : σ) :
    (b.history calls s).countP Transition.acts ≤ 1 := by
  induction calls generalizing b s with
  | nil => exact Nat.zero_le 1
  | cons c calls ih =>
    by_cases hacts : (b.transition c s).acts
    · have hused := congrArg BuildState.rank (state_of_acts hacts).2
      have hcount : (b.history (c :: calls) s).countP Transition.acts = 1 := by
        rw [history, List.countP_cons_of_pos hacts, countP_acts_of_terminal (Nat.le_of_eq hused.symm)]
      exact Nat.le_of_eq hcount
    · rw [history, List.countP_cons_of_neg hacts]
      exact ih _ _

/-- In every history of a build each call keeps the laws, the body of a last action is run once at
most, and what the build holds in the end stems from the request. -/
theorem history_lawful (request : Request) (calls : List (Call σ)) (s : σ) :
    (∀ t ∈ (start request).history calls s, t.Lawful) ∧
      ((start request).history calls s).countP Transition.acts ≤ 1 ∧
      ((start request).afterCalls calls s).1.Consistent request
        ((start request).history calls s) :=
  ⟨forall_mem_history lawful_transition _ calls s, countP_acts_le_one _ calls s,
    consistent_afterCalls request calls s⟩

end Build
end TapeWasm
