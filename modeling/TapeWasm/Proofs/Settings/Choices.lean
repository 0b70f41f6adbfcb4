import TapeWasm.Settings

/-!
What accepted settings choose. Settings are accepted by the small letters of their choices. Targets
and strategies are read in the same way, so that accepted names are found whatever their case. The
kind of an optimizer is read as it stands: an accepted kind in small letters gives its optimizer,
and any other accepted kind is refused when the pipeline is made.
-/
namespace TapeWasm

namespace Text

/-- The numbers of the white space characters. -/
def blankNumbers : List Nat :=
  [0x9, 0xa, 0xb, 0xc, 0xd, 0x20, 0x85, 0xa0, 0x1680, 0x2000, 0x2001, 0x2002, 0x2003, 0x2004, 0x2005,
   0x2006, 0x2007, 0x2008, 0x2009, 0x200a, 0x2028, 0x2029, 0x202f, 0x205f, 0x3000]

theorem toNat_mem_blankNumbers {c : Char} (h : isBlank c = true) : c.toNat ∈ blankNumbers := by
  simp only [isBlank, Bool.or_eq_true, Bool.and_eq_true, decide_eq_true_eq, beq_iff_eq] at h
  simp only [blankNumbers, List.mem_cons, List.not_mem_nil, or_false]
  omega

/-- White space has no small letters. -/
theorem lowerChar_of_isBlank {c : Char} (h : isBlank c = true) : lowerChar c = c := by
  have hall : ∀ n ∈ blankNumbers, lowerChar (Char.ofNat n) = Char.ofNat n := by decide +kernel
  have hc := hall c.toNat (toNat_mem_blankNumbers h)
  rwa [Char.ofNat_toNat] at hc

theorem dropWhile_isBlank {cs : List Char} (h : ∀ c ∈ cs, isBlank c = false) :
    cs.dropWhile isBlank = cs := by
  cases cs with
  | nil => rfl
  | cons c r => rw [List.dropWhile_cons_of_neg (by simp [h c])]

theorem trim_eq_self {s : String} (h : ∀ c ∈ s.toList, isBlank c = false) : trim s = s := by
  have hreverse : ∀ c ∈ s.toList.reverse, isBlank c = false := by simpa using h
  simp only [trim, trimChars, dropWhile_isBlank h, dropWhile_isBlank hreverse,
    List.reverse_reverse, String.ofList_toList]

/-- A text whose small letters are one of some names has no white space at its ends, if the names
have none. -/
theorem trim_of_lower_mem {s : String} {names : List String}
    (hnames : names.all fun n => n.toList.all fun c => !isBlank c) (h : lower s ∈ names) :
    trim s = s := by
  apply trim_eq_self
  intro c hc
  cases hblank : isBlank c with
  | false => rfl
  | true =>
    have hmem : c ∈ (lower s).toList := by
      rw [lower, String.toList_map]
      exact List.mem_map.mpr ⟨c, hc, lowerChar_of_isBlank hblank⟩
    have hnot := List.all_eq_true.mp (List.all_eq_true.mp hnames _ h) c hmem
    simp [hblank] at hnot

end Text

theorem Target.parse_of_lower_mem {name : String} (h : Text.lower name ∈ ["wasi", "browser"]) :
    ∃ t, parse name = .ok t ∧ t.name = Text.lower name := by
  have htrim : Text.trim name = name := Text.trim_of_lower_mem (by decide +kernel) h
  unfold parse
  rw [htrim]
  simp only [List.mem_cons, List.not_mem_nil, or_false] at h
  rcases h with h | h
  · rw [h]
    exact ⟨wasi, rfl, rfl⟩
  · rw [h]
    exact ⟨browser, rfl, rfl⟩

theorem Strategy.parse_of_lower_mem {name : String}
    (h : Text.lower name ∈ ["fast", "balanced", "optimized"]) :
    ∃ s, parse name = .ok s ∧ s.name = Text.lower name := by
  have htrim : Text.trim name = name := Text.trim_of_lower_mem (by decide +kernel) h
  unfold parse
  rw [htrim]
  simp only [List.mem_cons, List.not_mem_nil, or_false] at h
  rcases h with h | h | h
  · rw [h]
    exact ⟨fast, rfl, rfl⟩
  · rw [h]
    exact ⟨balanced, rfl, rfl⟩
  · rw [h]
    exact ⟨optimized, rfl, rfl⟩

namespace Optimizer

/-- The optimizers by their names. -/
inductive Named (box : Toolbox) (setup : ToolSetup) : String → Optimizer → Prop
  | tool : Named box setup "wasm-opt" (tool box setup)
  | peephole : Named box setup "peephole" peephole
  | none : Named box setup "none" none

variable {box : Toolbox} {setup : ToolSetup} {kind : String}

theorem ofKind_of_mem (h : kind ∈ ["wasm-opt", "peephole", "none"]) :
    ∃ o, ofKind box kind setup = .ok o ∧ Named box setup kind o := by
  simp only [List.mem_cons, List.not_mem_nil, or_false] at h
  rcases h with rfl | rfl | rfl
  · exact ⟨_, rfl, .tool⟩
  · exact ⟨_, rfl, .peephole⟩
  · exact ⟨_, rfl, .none⟩

theorem ofKind_of_not_mem (h : kind ∉ ["wasm-opt", "", "peephole", "none"]) :
    ofKind box kind setup = .error (unknownKind kind) := by
  unfold ofKind
  split
  · simp at h
  · simp at h
  · simp at h
  · simp at h
  · rfl

end Optimizer

namespace Settings

variable {s : Settings} {box : Toolbox} {backend : Backend}

theorem validate_eq_ok_iff : s.validate = .ok () ↔
    (∀ c ∈ s.choices, c.isAllowed = true) ∧
      ¬ (s.optimizer.kind = "wasm-opt" ∧ s.optimizer.path = "") ∧
      s.engine.memoryLimitPages ≤ Wasm.maxPages := by
  unfold validate
  split
  · rename_i c hc
    have hnot := List.find?_some hc
    refine iff_of_false (by simp) fun h => ?_
    simp [h.1 c (List.mem_of_find?_eq_some hc)] at hnot
  · rename_i hnone
    have hall : ∀ c ∈ s.choices, c.isAllowed = true := by simpa using hnone
    split
    · rename_i htool
      exact iff_of_false (by simp) fun h => h.2.1 htool
    · rename_i htool
      split
      · rename_i hpages
        exact iff_of_false (by simp) fun h => UInt32.not_lt.mpr h.2.2 hpages
      · rename_i hpages
        exact iff_of_true rfl ⟨hall, htool, UInt32.not_lt.mp hpages⟩

theorem lower_mem_of_isAllowed {c : Choice} (h : c.isAllowed = true) :
    Text.lower c.value ∈ c.allowed := by
  simpa [Choice.isAllowed] using h

theorem pipeline_of_target {target : Target} (h : Target.parse s.target = .ok target) :
    s.pipeline box backend = (makeOptimizer s.optimizer box).map fun o => .standard target o
      { memoryLimitPages := s.engine.memoryLimitPages, cacheDir := s.engine.cacheDir, backend } := by
  unfold pipeline
  rw [h]
  cases makeOptimizer s.optimizer box <;> rfl

/-- Accepted settings have their target and strategy, both named by the small letters of what was
chosen. With the kind of the optimizer in small letters they also have their pipeline; with any other
accepted kind the pipeline is refused. -/
theorem accepted_choices (h : s.validate = .ok ()) (box : Toolbox) (backend : Backend) :
    ∃ target strategy, Target.parse s.target = .ok target ∧
      target.name = Text.lower s.target ∧
      Strategy.parse s.engine.strategy = .ok strategy ∧
      strategy.name = Text.lower s.engine.strategy ∧
      (Text.lower s.optimizer.kind = s.optimizer.kind →
        ∃ o, Optimizer.Named box ⟨s.optimizer.path, s.optimizer.flags, s.optimizer.tempDir⟩
            (Text.lower s.optimizer.kind) o ∧
          s.pipeline box backend = .ok (.standard target o
            { memoryLimitPages := s.engine.memoryLimitPages, cacheDir := s.engine.cacheDir
              backend })) ∧
      (Text.lower s.optimizer.kind ≠ s.optimizer.kind →
        s.pipeline box backend = .error (Optimizer.unknownKind s.optimizer.kind)) := by
  obtain ⟨hchoices, -, -⟩ := validate_eq_ok_iff.mp h
  simp only [choices, List.forall_mem_cons] at hchoices
  obtain ⟨htarget, hkind, hstrategy, -⟩ := hchoices
  obtain ⟨target, hparse, hname⟩ := Target.parse_of_lower_mem (lower_mem_of_isAllowed htarget)
  obtain ⟨strategy, hparse', hname'⟩ :=
    Strategy.parse_of_lower_mem (lower_mem_of_isAllowed hstrategy)
  have hkind := lower_mem_of_isAllowed hkind
  refine ⟨target, strategy, hparse, hname, hparse', hname', fun hsame => ?_, fun hother => ?_⟩
  · rw [hsame] at hkind ⊢
    obtain ⟨o, ho, hnamed⟩ := Optimizer.ofKind_of_mem hkind
    refine ⟨o, hnamed, ?_⟩
    rw [pipeline_of_target hparse, makeOptimizer, ho]
    rfl
  · -- Every kind that is known stands in small letters, so that this one is not.
    have hsmall : ∀ k ∈ ["wasm-opt", "", "peephole", "none"], Text.lower k = k := by
      decide +kernel
    rw [pipeline_of_target hparse, makeOptimizer,
      Optimizer.ofKind_of_not_mem fun hmem => hother (hsmall _ hmem)]
    rfl

/-- The capitals of names do not matter, of any alphabet. -/
theorem accepted_choices_capitals :
    let s : Settings :=
      { target := "WASİ", optimizer := { kind := "peephole" }, engine := { strategy := "Fast" }
        log := { level := "info", format := "JSON" } }
    s.validate = .ok () ∧ ∀ box backend, ∃ target strategy, Target.parse s.target = .ok target ∧
      target.name = "wasi" ∧ Strategy.parse s.engine.strategy = .ok strategy ∧
      strategy.name = "fast" ∧ ∃ o, Optimizer.Named box {} "peephole" o ∧
        s.pipeline box backend = .ok (.standard target o { backend }) := by
  intro s
  have hvalid : s.validate = .ok () := validate_eq_ok_iff.mpr
    ⟨by decide +kernel, by simp [s], by decide⟩
  refine ⟨hvalid, fun box backend => ?_⟩
  obtain ⟨target, strategy, htarget, hname, hstrategy, hname', hsmall, -⟩ :=
    accepted_choices hvalid box backend
  have hlower : Text.lower "WASİ" = "wasi" ∧ Text.lower "Fast" = "fast" ∧
      Text.lower "peephole" = "peephole" := by decide +kernel
  obtain ⟨hwasi, hfast, hpeephole⟩ := hlower
  obtain ⟨o, hnamed, hpipeline⟩ := hsmall hpeephole
  exact ⟨target, strategy, htarget, hname.trans hwasi, hstrategy, hname'.trans hfast, o,
    hpeephole ▸ hnamed, hpipeline⟩

/-- With a capital in its kind an optimizer is accepted, and refused when it is made. -/
theorem validate_accepts_refused_kind :
    let s : Settings :=
      { target := "wasi", optimizer := { kind := "Peephole" }, engine := { strategy := "fast" }
        log := { level := "info", format := "console" } }
    s.validate = .ok () ∧ Text.lower s.optimizer.kind = "peephole" ∧
      ∀ box backend, s.pipeline box backend = .error (Optimizer.unknownKind "Peephole") := by
  intro s
  have hvalid : s.validate = .ok () := validate_eq_ok_iff.mpr
    ⟨by decide +kernel, by simp [s], by decide⟩
  have hwasi : Text.lower "wasi" ∈ ["wasi", "browser"] := by decide +kernel
  have hlower : Text.lower "Peephole" = "peephole" := by decide +kernel
  obtain ⟨target, hparse, -⟩ := Target.parse_of_lower_mem hwasi
  refine ⟨hvalid, hlower, fun box backend => ?_⟩
  rw [pipeline_of_target (s := s) hparse, makeOptimizer,
    Optimizer.ofKind_of_not_mem (by simp [s])]
  rfl

end Settings
end TapeWasm
