import TapeWasm.World

/-!
Where paths lead. A path and its clean form stand for the same place, cleaning twice is cleaning
once, and a local path that goes on from a directory ends below that directory.
-/
namespace TapeWasm

namespace Path

/-- A name that leads one step down. -/
structure IsPlain (name : String) : Prop where
  ne_empty : name ≠ ""
  ne_dot : name ≠ "."
  ne_up : name ≠ ".."

/-- The shape of what `push` makes: plain names above steps up, and no steps up from the root. -/
inductive Stacked (isRooted : Bool) : List String → Prop
  | nil : Stacked isRooted []
  | up {above : List String} (free : isRooted = false) (ups : above = [] ∨ above.head? = some "..")
      (rest : Stacked isRooted above) : Stacked isRooted (".." :: above)
  | name {n : String} {above : List String} (plain : IsPlain n) (rest : Stacked isRooted above) :
      Stacked isRooted (n :: above)

variable {isRooted : Bool} {above base : List String} {n : String}

theorem push_plain (h : IsPlain n) (isRooted : Bool) (above : List String) :
    push isRooted above n = n :: above := by
  simp [push, h.ne_empty, h.ne_dot, h.ne_up]

theorem push_of_blank (h : n = "" ∨ n = ".") (isRooted : Bool) (above : List String) :
    push isRooted above n = above := by
  simp [push, h]

/-- Every name is a blank, a step up, or plain. -/
theorem name_cases (n : String) : (n = "" ∨ n = ".") ∨ n = ".." ∨ IsPlain n := by
  by_cases hblank : n = "" ∨ n = "."
  · exact .inl hblank
  · by_cases hup : n = ".."
    · exact .inr (.inl hup)
    · exact .inr (.inr ⟨fun h => hblank (.inl h), fun h => hblank (.inr h), hup⟩)

@[simp] theorem push_up_nil (isRooted : Bool) :
    push isRooted [] ".." = if isRooted then [] else [".."] := by
  cases isRooted <;> decide

@[simp] theorem push_up_up (isRooted : Bool) (above : List String) :
    push isRooted (".." :: above) ".." = ".." :: ".." :: above := by
  simp [push]

theorem push_up_plain (h : IsPlain n) (isRooted : Bool) (above : List String) :
    push isRooted (n :: above) ".." = above := by
  simp [push, h.ne_up]

theorem Stacked.push (h : Stacked isRooted above) (n : String) :
    Stacked isRooted (push isRooted above n) := by
  rcases name_cases n with hblank | rfl | hplain
  · rw [push_of_blank hblank]
    exact h
  · cases h with
    | nil =>
      rw [push_up_nil]
      cases isRooted with
      | true => exact .nil
      | false => exact .up rfl (.inl rfl) .nil
    | up free ups rest =>
      rw [push_up_up]
      exact .up free (.inr rfl) (.up free ups rest)
    | name plain rest =>
      rw [push_up_plain plain]
      exact rest
  · rw [push_plain hplain]
    exact .name hplain h

theorem Stacked.foldl (h : Stacked isRooted above) (names : List String) :
    Stacked isRooted (names.foldl (Path.push isRooted) above) := by
  induction names generalizing above with
  | nil => exact h
  | cons n names ih => exact ih (h.push n)

/-- Pushing the names of a stack again gives the stack. -/
theorem Stacked.foldl_reverse (h : Stacked isRooted above) :
    above.reverse.foldl (Path.push isRooted) [] = above := by
  induction h with
  | nil => rfl
  | @up above free ups rest ih =>
    rw [List.reverse_cons, List.foldl_append, ih, List.foldl_cons, List.foldl_nil]
    cases above with
    | nil => rw [push_up_nil, free, if_neg (by decide)]
    | cons first below =>
      obtain rfl : first = ".." := by simpa using ups
      exact push_up_up isRooted below
  | name plain rest ih =>
    rw [List.reverse_cons, List.foldl_append, ih, List.foldl_cons, List.foldl_nil, push_plain plain]

/-- Once there is a step up at the bottom of a stack it stays there. -/
theorem up_mem_push (h : Stacked false above) (hup : ".." ∈ above) (n : String) :
    ".." ∈ push false above n := by
  rcases name_cases n with hblank | rfl | hplain
  · rw [push_of_blank hblank]
    exact hup
  · cases h with
    | nil => cases hup
    | up => simp
    | name plain rest =>
      rw [push_up_plain plain]
      exact (List.mem_cons.mp hup).resolve_left fun h => plain.ne_up h.symm
  · rw [push_plain hplain]
    exact List.mem_cons_of_mem n hup

theorem up_mem_foldl (h : Stacked false above) (hup : ".." ∈ above) (names : List String) :
    ".." ∈ names.foldl (push false) above := by
  induction names generalizing above with
  | nil => exact hup
  | cons n names ih => exact ih (h.push n) (up_mem_push h hup n)

/-- Names that never step out of where they start do the same on top of anything. -/
theorem foldl_push_append (h : Stacked false above) {names : List String}
    (hin : ".." ∉ names.foldl (push false) above) (isRooted : Bool) (base : List String) :
    names.foldl (push isRooted) (above ++ base) = names.foldl (push false) above ++ base := by
  induction names generalizing above with
  | nil => rfl
  | cons n names ih =>
    have hstep : push isRooted (above ++ base) n = push false above n ++ base := by
      rcases name_cases n with hblank | rfl | hplain
      · rw [push_of_blank hblank, push_of_blank hblank]
      · cases h with
        | nil =>
          refine absurd ?_ hin
          exact up_mem_foldl (Stacked.nil.push "..") (by decide) names
        | up free ups rest =>
          refine absurd ?_ hin
          exact up_mem_foldl ((Stacked.up free ups rest).push "..") (by simp) names
        | name plain rest => rw [List.cons_append, push_up_plain plain, push_up_plain plain]
      · rw [push_plain hplain, push_plain hplain, List.cons_append]
    rw [List.foldl_cons, List.foldl_cons, hstep]
    exact ih (h.push n) hin

/-! Clean paths. -/

theorem stacked_stack (p : Path) : Stacked p.isRooted p.stack :=
  Stacked.nil.foldl p.names

theorem clean_of_stack_eq_nil {p : Path} (h : p.stack = []) :
    p.clean = ⟨p.isRooted, if p.isRooted then [] else ["."]⟩ := by
  rw [clean, if_pos h]

theorem clean_of_stack_ne_nil {p : Path} (h : p.stack ≠ []) :
    p.clean = ⟨p.isRooted, p.stack.reverse⟩ := by
  rw [clean, if_neg h]

@[simp] theorem stack_clean (p : Path) : p.clean.stack = p.stack := by
  by_cases h : p.stack = []
  · rw [clean_of_stack_eq_nil h, h]
    cases p.isRooted <;> decide
  · rw [clean_of_stack_ne_nil h]
    exact p.stacked_stack.foldl_reverse

theorem Stacked.plain_or_up (h : Stacked isRooted above) (hn : n ∈ above) :
    IsPlain n ∨ n = ".." := by
  induction h with
  | nil => cases hn
  | up _ _ _ ih =>
    rcases List.mem_cons.mp hn with rfl | hn
    · exact .inr rfl
    · exact ih hn
  | name plain _ ih =>
    rcases List.mem_cons.mp hn with rfl | hn
    · exact .inl plain
    · exact ih hn

/-- A step up in a stack means one at its bottom. -/
theorem Stacked.getLast?_eq_up (h : Stacked isRooted above) (hup : ".." ∈ above) :
    above.getLast? = some ".." := by
  induction h with
  | nil => cases hup
  | @up above _ ups rest ih =>
    cases above with
    | nil => rfl
    | cons first below =>
      obtain rfl : first = ".." := by simpa using ups
      rw [List.getLast?_cons_cons]
      exact ih List.mem_cons_self
  | @name n above plain rest ih =>
    have hup : ".." ∈ above := (List.mem_cons.mp hup).resolve_left fun h => plain.ne_up h.symm
    cases above with
    | nil => cases hup
    | cons first below =>
      rw [List.getLast?_cons_cons]
      exact ih hup

/-- A local path never steps up from where it starts. -/
theorem up_notMem_of_isLocal {p : Path} (h : p.isLocal = true) : ".." ∉ p.stack := by
  have hhead : p.clean.names.head? ≠ some ".." := by
    simp only [isLocal, Bool.and_eq_true, decide_eq_true_eq] at h
    exact h.2
  intro hup
  rw [clean_of_stack_ne_nil (List.ne_nil_of_mem hup), List.head?_reverse] at hhead
  exact hhead (p.stacked_stack.getLast?_eq_up hup)

/-- What a local path adds to the names of a clean one. -/
theorem stack_join_of_isLocal (p : Path) {q : Path} (h : q.isLocal = true) :
    (p.join q).stack = q.stack ++ p.stack := by
  have hin := up_notMem_of_isLocal h
  have hfree : q.isRooted = false := by
    simp only [isLocal, Bool.and_eq_true, Bool.not_eq_true'] at h
    exact h.1.1
  unfold stack at hin
  rw [hfree] at hin
  rw [join, stack_clean, stack, List.foldl_append]
  change q.names.foldl (push p.isRooted) ([] ++ p.stack) = _
  rw [foldl_push_append .nil hin]
  rw [stack.eq_def q, hfree]

end Path

namespace World

variable {w w' : World} {start : List String}

theorem step_plain {n : String} (h : Path.IsPlain n) (place : List String) :
    step place n = place ++ [n] := by
  simp [step, h.ne_empty, h.ne_dot, h.ne_up]

theorem step_of_blank {n : String} (h : n = "" ∨ n = ".") (place : List String) :
    step place n = place := by
  simp [step, h]

@[simp] theorem step_up (place : List String) : step place ".." = place.dropLast := by
  simp [step]

/-- To push a name is to take one more step. -/
theorem foldl_step_push {isRooted : Bool} {above : List String}
    (h : Path.Stacked isRooted above) (hstart : isRooted = true → start = []) (n : String) :
    (Path.push isRooted above n).reverse.foldl step start =
      step (above.reverse.foldl step start) n := by
  rcases Path.name_cases n with hblank | rfl | hplain
  · rw [Path.push_of_blank hblank, step_of_blank hblank]
  · cases h with
    | nil =>
      rw [Path.push_up_nil, step_up]
      cases isRooted with
      | true => simp [hstart rfl]
      | false => simp
    | up =>
      rw [Path.push_up_up, List.reverse_cons, List.foldl_append]
      rfl
    | name plain rest =>
      rw [Path.push_up_plain plain, List.reverse_cons, List.foldl_append, List.foldl_cons,
        List.foldl_nil, step_plain plain, step_up, List.dropLast_concat]
  · rw [Path.push_plain hplain, List.reverse_cons, List.foldl_append]
    rfl

theorem foldl_step_stack {isRooted : Bool} {above : List String}
    (h : Path.Stacked isRooted above) (hstart : isRooted = true → start = [])
    (names : List String) :
    (names.foldl (Path.push isRooted) above).reverse.foldl step start =
      names.foldl step (above.reverse.foldl step start) := by
  induction names generalizing above with
  | nil => rfl
  | cons n names ih => rw [List.foldl_cons, ih (h.push n), foldl_step_push h hstart n, List.foldl_cons]

theorem placeOf_eq_stack (w : World) (p : Path) :
    w.placeOf p = p.stack.reverse.foldl step (w.startOf p) := by
  refine (foldl_step_stack .nil ?_ p.names).symm
  intro hrooted
  simp [hrooted]

/-- A path and its clean form stand for the same place. -/
@[simp] theorem placeOf_clean (w : World) (p : Path) : w.placeOf p.clean = w.placeOf p := by
  have hstart : w.startOf p.clean = w.startOf p := by
    unfold startOf Path.clean
    split <;> rfl
  rw [placeOf_eq_stack, placeOf_eq_stack, Path.stack_clean, hstart]

theorem foldl_step_plain {names : List String} (h : ∀ n ∈ names, Path.IsPlain n)
    (place : List String) : names.foldl step place = place ++ names := by
  induction names generalizing place with
  | nil => simp
  | cons n names ih =>
    rw [List.forall_mem_cons] at h
    rw [List.foldl_cons, step_plain h.1, ih h.2]
    simp

/-- A local path leads on from a directory to a place below it. -/
theorem placeOf_join_of_isLocal (w : World) (p : Path) {q : Path} (h : q.isLocal = true) :
    w.placeOf (p.join q) = w.placeOf p ++ q.stack.reverse := by
  have hstart : w.startOf (p.join q) = w.startOf p := by
    unfold startOf Path.join Path.clean
    split <;> rfl
  have hplain : ∀ n ∈ q.stack.reverse, Path.IsPlain n := by
    intro n hn
    have hn : n ∈ q.stack := List.mem_reverse.mp hn
    exact (q.stacked_stack.plain_or_up hn).resolve_right fun hup =>
      Path.up_notMem_of_isLocal h (hup ▸ hn)
  rw [placeOf_eq_stack, Path.stack_join_of_isLocal p h, hstart, List.reverse_append,
    List.foldl_append, ← placeOf_eq_stack, foldl_step_plain hplain]

/-- The directory that a clean path leads into, if the path does not end with a step up. -/
theorem placeOf_parent (w : World) {p : Path} {n : String} {above : List String}
    (hnames : p.names = p.stack.reverse) (hstack : p.stack = n :: above) (hn : Path.IsPlain n) :
    w.placeOf p = w.placeOf p.parent ++ [n] := by
  have hparent : w.placeOf p.parent = above.reverse.foldl step (w.startOf p) := by
    rw [Path.parent, placeOf_clean, placeOf, hnames, hstack]
    simp [startOf]
  rw [hparent, placeOf_eq_stack, hstack, List.reverse_cons, List.foldl_append, List.foldl_cons,
    List.foldl_nil, step_plain hn]

end World
end TapeWasm
