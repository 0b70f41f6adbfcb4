import TapeWasm.Proofs.World.Paths

/-!
What work on files leaves alone. Two worlds are compared place by place: outside of some places all
is as it was, but for new directories on the way there. A directory made for somebody alone leaves
no trace once it is removed.
-/
namespace TapeWasm.World

/-- Every place that is not inside is as it was, or was vacant and is now a directory on the way to
something inside. -/
structure KeptOutside (inside : List String → Prop) (w w' : World) : Prop where
  here : w'.here = w.here
  search : w'.search = w.search
  host : w'.host = w.host
  nodes (place : List String) (h : ¬ inside place) :
    w'.nodeAt? place = w.nodeAt? place ∨
      (w.nodeAt? place = none ∧ w'.nodeAt? place = some .directory ∧
        ∃ q, inside q ∧ place <+: q)

variable {inside inside' : List String → Prop} {w w' w'' : World} {place q : List String} {n : Node}
  {p : Path}

namespace KeptOutside

theorem refl (w : World) : KeptOutside inside w w :=
  ⟨rfl, rfl, rfl, fun _ _ => .inl rfl⟩

theorem trans (h : KeptOutside inside w w') (h' : KeptOutside inside w' w'') :
    KeptOutside inside w w'' where
  here := h'.here.trans h.here
  search := h'.search.trans h.search
  host := h'.host.trans h.host
  nodes place hplace := by
    rcases h.nodes place hplace with hsame | ⟨hvacant, hnew, hway⟩
    · rw [← hsame]
      exact h'.nodes place hplace
    · rcases h'.nodes place hplace with hsame | ⟨hvacant', -, -⟩
      · exact .inr ⟨hvacant, hsame.trans hnew, hway⟩
      · cases hnew.symm.trans hvacant'

theorem mono (h : KeptOutside inside w w') (hsub : ∀ place, inside place → inside' place) :
    KeptOutside inside' w w' where
  here := h.here
  search := h.search
  host := h.host
  nodes place hplace := by
    rcases h.nodes place (fun hin => hplace (hsub place hin)) with hsame | ⟨hvacant, hnew, q, hq, hway⟩
    · exact .inl hsame
    · exact .inr ⟨hvacant, hnew, q, hsub q hq, hway⟩

end KeptOutside

/-! One node. -/

@[simp] theorem put_here (w : World) (place : List String) (n : Node) :
    (w.put place n).here = w.here := rfl

theorem nodeAt?_put_of_ne (h : q ≠ place) (w : World) (n : Node) :
    (w.put place n).nodeAt? q = w.nodeAt? q := by
  have hfind : ((place, n) :: w.nodes.filter fun m => m.1 ≠ place).find? (fun m => m.1 = q) =
      w.nodes.find? fun m => m.1 = q := by
    rw [List.find?_cons_of_neg (by simpa using h.symm), List.find?_filter]
    congr 1
    funext m
    by_cases hm : m.1 = q
    · simp [hm, h]
    · simp [hm]
  simp only [nodeAt?, put, hfind]

theorem nodeAt?_put_self (h : w.nodeAt? place = none) (n : Node) :
    (w.put place n).nodeAt? place = some n := by
  unfold nodeAt? at h ⊢
  split at h
  · cases h
  · rename_i hplace
    rw [if_neg (by simpa using hplace)]
    simp [put]

theorem keptOutside_put (h : inside place) (w : World) (n : Node) :
    KeptOutside inside w (w.put place n) where
  here := rfl
  search := rfl
  host := rfl
  nodes q hq := by
    have hne : q ≠ place := by
      rintro rfl
      exact hq h
    exact .inl (nodeAt?_put_of_ne hne w n)

theorem keptOutside_put_way (hvacant : w.nodeAt? place = none) (hq : inside q)
    (hway : place <+: q) : KeptOutside inside w (w.put place .directory) where
  here := rfl
  search := rfl
  host := rfl
  nodes r hr := by
    by_cases heq : r = place
    · subst heq
      exact .inr ⟨hvacant, nodeAt?_put_self hvacant _, q, hq, hway⟩
    · exact .inl (nodeAt?_put_of_ne heq w _)

/-! Files and directories by their paths. -/

theorem keptOutside_makeDirsFrom {above rest : List String} (hq : inside q)
    (hway : above ++ rest <+: q) (h : makeDirsFrom p w above rest = .ok w') :
    KeptOutside inside w w' := by
  induction rest generalizing w above with
  | nil =>
    obtain rfl := Except.ok.inj h
    exact .refl w
  | cons name rest ih =>
    rw [List.append_cons] at hway
    have hname : above ++ [name] <+: q := (List.prefix_append _ rest).trans hway
    rw [makeDirsFrom] at h
    cases hnode : w.nodeAt? (above ++ [name]) with
    | none =>
      simp only [hnode] at h
      exact (keptOutside_put_way hnode hq hname).trans (ih hway h)
    | some node =>
      simp only [hnode] at h
      cases node with
      | directory => exact ih hway h
      | file | executable => cases h

theorem keptOutside_makeDirs (hq : inside q) (hway : w.placeOf p <+: q)
    (h : w.makeDirs p = .ok w') : KeptOutside inside w w' :=
  keptOutside_makeDirsFrom hq hway h

theorem walk_place {names : List String} {place : List String} {found : Found}
    (h : w.walk place names = .ok found) :
    found = .vacant (names.foldl step place) ∨ ∃ n, found = .node (names.foldl step place) n := by
  induction names generalizing place with
  | nil =>
    rw [walk] at h
    split at h
    · exact .inr ⟨_, (Except.ok.inj h).symm⟩
    · exact .inl (Except.ok.inj h).symm
  | cons name rest ih =>
    rw [walk] at h
    split at h
    · cases h
    · exact ih h
    · cases h

theorem write_eq_put {content : Bytes} (h : w.write p content = .ok w') :
    ∃ n, w' = w.put (w.placeOf p) n := by
  have hplace : ∀ found, w.find p = .ok found →
      found = .vacant (w.placeOf p) ∨ ∃ n, found = .node (w.placeOf p) n := by
    intro found hfound
    unfold find at hfound
    split at hfound
    · cases hfound
    · exact walk_place hfound
  unfold write at h
  split at h
  · cases h
  · rename_i place hfound
    obtain rfl := Except.ok.inj h
    rcases hplace _ hfound with heq | ⟨n, heq⟩
    · exact ⟨_, by rw [Found.vacant.inj heq]⟩
    · cases heq
  · rename_i place n hfound
    rcases hplace _ hfound with heq | ⟨n', heq⟩
    · cases heq
    · obtain ⟨rfl, -⟩ := Found.node.inj heq
      cases n with
      | directory => cases h
      | file | executable => exact ⟨_, (Except.ok.inj h).symm⟩

theorem keptOutside_write {content : Bytes} (hin : inside (w.placeOf p))
    (h : w.write p content = .ok w') : KeptOutside inside w w' := by
  obtain ⟨n, rfl⟩ := write_eq_put h
  exact keptOutside_put hin w n

/-! Directories made for somebody alone. -/

/-- A place for a new directory: nothing is there, and nothing is missing above. -/
structure IsFresh (w : World) (dir : List String) : Prop where
  unused : w.isFree dir = true
  above (q : List String) (hq : q <+: dir) (hne : q ≠ dir) : w.nodeAt? q ≠ none
  ne_nil : dir ≠ []

theorem makeTempDir_eq_ok {stem : String} {dir : Path}
    (h : w.makeTempDir stem = .ok (dir, w')) :
    ∃ k : Nat, dir = ⟨true, ["tmp", stem ++ toString k]⟩ ∧ w' = w.put dir.names .directory ∧
      w.IsFresh dir.names := by
  unfold makeTempDir at h
  dsimp only at h
  split at h
  · cases h
  · rename_i htmp
    split at h
    · rename_i k hk
      obtain ⟨rfl, rfl⟩ := Prod.mk.inj (Except.ok.inj h)
      refine ⟨k, rfl, rfl, by simpa using List.find?_some hk, fun q hq hne => ?_, by simp⟩
      have hcases : q = [] ∨ q = ["tmp"] := by
        rw [List.prefix_cons_iff] at hq
        rcases hq with rfl | ⟨t, rfl, ht⟩
        · exact .inl rfl
        · rw [List.prefix_cons_iff] at ht
          rcases ht with rfl | ⟨t, rfl, ht⟩
          · exact .inr rfl
          · rw [List.prefix_nil.mp ht] at hne
            exact absurd rfl hne
      rcases hcases with rfl | rfl
      · simp [nodeAt?]
      · simp [htmp]
    · cases h
  · cases h

theorem nodeAt?_of_isFree (h : w.isFree place = true) (hbelow : place <+: q) (hne : q ≠ []) :
    w.nodeAt? q = none := by
  simp only [isFree, Bool.and_eq_true, Bool.not_eq_true', List.all_eq_true] at h
  obtain ⟨hhere, hnodes⟩ := h
  have hq : ¬ (q = [] ∨ q = w.here) := by
    rintro (hnil | rfl)
    · exact hne hnil
    · rw [List.isPrefixOf_iff_prefix.mpr hbelow] at hhere
      cases hhere
  rw [nodeAt?, if_neg hq]
  have hnone : w.nodes.find? (fun n => n.1 = q) = none := by
    rw [List.find?_eq_none]
    intro m hm heq
    have heq : m.1 = q := by simpa using heq
    have hno := hnodes m hm
    rw [heq, List.isPrefixOf_iff_prefix.mpr hbelow] at hno
    cases hno
  rw [hnone]
  rfl

theorem nodeAt?_removeAll_outside (h : ¬ w.placeOf p <+: q) :
    (w.removeAll p).nodeAt? q = w.nodeAt? q := by
  have hfind : (w.nodes.filter fun n => !(w.placeOf p).isPrefixOf n.1).find? (fun n => n.1 = q) =
      w.nodes.find? fun n => n.1 = q := by
    rw [List.find?_filter]
    congr 1
    funext m
    by_cases hm : m.1 = q
    · have hno : (w.placeOf p).isPrefixOf q = false := by
        rw [Bool.eq_false_iff, Ne, List.isPrefixOf_iff_prefix]
        exact h
      simp [hm, hno]
    · simp [hm]
  simp only [nodeAt?, removeAll, hfind]

theorem nodeAt?_removeAll_below (h : w.placeOf p <+: q) (hne : q ≠ []) (hhere : q ≠ w.here) :
    (w.removeAll p).nodeAt? q = none := by
  have hfind : (w.nodes.filter fun n => !(w.placeOf p).isPrefixOf n.1).find? (fun n => n.1 = q) =
      none := by
    rw [List.find?_eq_none]
    intro m hm heq
    have heq : m.1 = q := by simpa using heq
    have hno := (List.mem_filter.mp hm).2
    rw [heq, List.isPrefixOf_iff_prefix.mpr h] at hno
    cases hno
  have hplace : ¬ (q = [] ∨ q = (w.removeAll p).here) := by
    rintro (hnil | heq)
    · exact hne hnil
    · exact hhere heq
  rw [nodeAt?, if_neg hplace]
  simp only [removeAll, hfind]
  rfl

/-- A private directory, and all that was done in it, is gone without a trace once it is removed. -/
theorem keptOutside_removeAll (hfresh : w.IsFresh place) (hplace : w.placeOf p = place)
    (h : KeptOutside (place <+: ·) (w.put place .directory) w') :
    KeptOutside (fun _ => False) w (w'.removeAll p) where
  here := h.here
  search := h.search
  host := h.host
  nodes q _ := by
    left
    have hplace' : w'.placeOf p = place := by
      rw [← hplace, placeOf, placeOf, startOf, startOf, h.here, put_here]
    by_cases hbelow : place <+: q
    · have hne : q ≠ [] := by
        rintro rfl
        exact hfresh.ne_nil (List.prefix_nil.mp hbelow)
      have hhere : q ≠ w'.here := by
        rintro rfl
        rw [h.here, put_here, ← List.isPrefixOf_iff_prefix] at hbelow
        have hfree := hfresh.unused
        simp [isFree, hbelow] at hfree
      rw [nodeAt?_removeAll_below (hplace'.symm ▸ hbelow) hne hhere,
        nodeAt?_of_isFree hfresh.unused hbelow hne]
    · have hother : q ≠ place := by
        rintro rfl
        exact hbelow List.prefix_rfl
      rw [nodeAt?_removeAll_outside (hplace'.symm ▸ hbelow)]
      rcases h.nodes q hbelow with hsame | ⟨hvacant, -, r, hr, hway⟩
      · exact hsame.trans (nodeAt?_put_of_ne hother w _)
      · rw [nodeAt?_put_of_ne hother] at hvacant
        have hq : q <+: place := (List.prefix_or_prefix_of_prefix hway hr).resolve_right hbelow
        exact absurd hvacant (hfresh.above q hq hother)

end TapeWasm.World
