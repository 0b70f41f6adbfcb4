import TapeWasm.Proofs.Build.Operations
import TapeWasm.Proofs.World.Kept

/-!
What engines do to files. All that an operation leaves behind lies in the directories for native code
that settings name; without such a name it leaves nothing behind. A runtime is trusted to keep to the
directory that it is told.
-/
namespace TapeWasm

open World (KeptOutside)

/-- The runtime keeps to the directory for native code that it is given, if it is given one. -/
structure Backend.Confined (b : Backend) : Prop where
  openCache (dir : Path) (w : World) :
    KeptOutside (w.placeOf dir <+: ·) w (b.openCache dir w).2
  lower (c : RuntimeConfig) (bytes : Bytes) (w : World) :
    KeptOutside (fun place => ∃ dir, c.cacheDir? = some dir ∧ w.placeOf dir <+: place) w
      (b.lower c bytes w).2

theorem Backend.confined_standard : Backend.standard.Confined where
  openCache _ w := .refl w
  lower _ _ w := .refl w

/-- The place is in the directory that native code of some module is kept in below a root. -/
def Cache.Holds (root : String) (w : World) (place : List String) : Prop :=
  root ≠ "" ∧ ∃ module, w.placeOf (dirFor root (Digest.sha256 module)) <+: place

theorem World.placeOf_of_here {w w' : World} (h : w'.here = w.here) (p : Path) :
    w'.placeOf p = w.placeOf p := by
  rw [placeOf, placeOf, startOf, startOf, h]

/-! Work in one directory. -/

namespace FileWork

variable {α β : Type} {dir : Path} {x : FileWork α} {f : α → FileWork β} {w w' : World}

/-- Work that does nothing outside a directory but to make the way to it. -/
def StaysIn (dir : Path) (x : FileWork α) : Prop :=
  ∀ w, KeptOutside (w.placeOf dir <+: ·) w (x w).2

theorem bind_apply (x : FileWork α) (f : α → FileWork β) (w : World) :
    (x >>= f) w = ExceptT.bindCont f (x w).1 (x w).2 := rfl

theorem bind_eq_ok {b : β} (h : (x >>= f) w = (.ok b, w')) :
    ∃ a w₁, x w = (.ok a, w₁) ∧ f a w₁ = (.ok b, w') := by
  rw [bind_apply] at h
  rcases hx : x w with ⟨e | a, w₁⟩
  · rw [hx] at h
    cases h
  · rw [hx] at h
    exact ⟨a, w₁, rfl, h⟩

theorem StaysIn.pure (a : α) : StaysIn dir (Pure.pure a : FileWork α) :=
  fun w => .refl w

theorem StaysIn.bind (hx : StaysIn dir x) (hf : ∀ a, StaysIn dir (f a)) :
    StaysIn dir (x >>= f) := by
  intro w
  have hfirst := hx w
  rw [bind_apply]
  generalize x w = r at hfirst ⊢
  obtain ⟨e | a, w₁⟩ := r
  · exact hfirst
  · have hnext := hf a w₁
    rw [World.placeOf_of_here hfirst.here] at hnext
    exact hfirst.trans hnext

theorem StaysIn.attempt {operation : World → Except String World}
    (h : ∀ w w', operation w = .ok w' → KeptOutside (w.placeOf dir <+: ·) w w')
    (fault : String → Fault) : StaysIn dir (attempt operation fault) := by
  intro w
  unfold FileWork.attempt
  cases hw : operation w with
  | ok w' => exact h w w' hw
  | error why => exact .refl w

end FileWork

open FileWork (StaysIn)

/-! Directories for native code. -/

namespace Cache

/-- The directory of a cache, as its path says: clean, and not ending with a step up. -/
structure IsNamed (c : Cache) : Prop where
  names : c.dir.names = c.dir.stack.reverse
  last : ∃ n above, c.dir.stack = n :: above ∧ Path.IsPlain n

variable {c : Cache}

theorem stack_ne_nil (hc : c.IsNamed) (q : Path) : q.stack ++ c.dir.stack ≠ [] := by
  obtain ⟨n, above, hstack, -⟩ := hc.last
  simp [hstack]

/-- What stands above an entry of a cache is on the way to it. -/
theorem placeOf_parent_above (hc : c.IsNamed) {entry : Path} (hentry : entry.isLocal = true)
    (w : World) : w.placeOf (c.dir.join entry).parent <+: w.placeOf (c.dir.join entry) := by
  have hstack := Path.stack_join_of_isLocal c.dir hentry
  have hnames : (c.dir.join entry).names = (c.dir.join entry).stack.reverse := by
    have hclean := Path.stack_clean ⟨c.dir.isRooted, c.dir.names ++ entry.names⟩
    have hne : (⟨c.dir.isRooted, c.dir.names ++ entry.names⟩ : Path).stack ≠ [] := by
      rw [← hclean]
      exact hstack ▸ stack_ne_nil hc entry
    rw [Path.join, hclean, Path.clean_of_stack_ne_nil hne]
  obtain ⟨n, above, htop, hplain⟩ :
      ∃ n above, (c.dir.join entry).stack = n :: above ∧ Path.IsPlain n := by
    rw [hstack]
    cases hcons : entry.stack with
    | nil => exact hc.last
    | cons n above =>
      have hn : n ∈ entry.stack := hcons ▸ List.mem_cons_self
      refine ⟨n, above ++ c.dir.stack, rfl, ?_⟩
      exact (entry.stacked_stack.plain_or_up hn).resolve_right fun hup =>
        Path.up_notMem_of_isLocal hentry (hup ▸ hn)
  rw [World.placeOf_parent w hnames htop hplain]
  exact List.prefix_append _ _

theorem staysIn_restoreFile (hc : c.IsNamed) (name : String) (data : Bytes) :
    StaysIn c.dir (c.restoreFile name data) := by
  unfold restoreFile
  dsimp only
  split
  · exact fun w => .refl w
  · rename_i hlocal
    have hlocal : (Path.ofString name).isLocal = true := by simpa using hlocal
    have hbelow (w : World) :
        w.placeOf c.dir <+: w.placeOf (c.dir.join (Path.ofString name)) := by
      rw [World.placeOf_join_of_isLocal w c.dir hlocal]
      exact List.prefix_append _ _
    refine .bind (fun w => .refl w) fun w => ?_
    split
    · exact .pure ()
    · refine .bind (.attempt (fun w w' h => ?_) _) fun _ => .attempt (fun w w' h => ?_) _
      · exact World.keptOutside_makeDirs (hbelow w) (placeOf_parent_above hc hlocal w) h
      · exact World.keptOutside_write (hbelow w) h

theorem staysIn_restore (hc : c.IsNamed) (files : List (String × Bytes)) :
    StaysIn c.dir (c.restore files) := by
  induction files with
  | nil => exact .pure ()
  | cons file rest ih => exact .bind (staysIn_restoreFile hc file.1 file.2) fun _ => ih

theorem isPlain_of_length {n : String} (h : 2 < n.length) : Path.IsPlain n := by
  constructor <;> rintro rfl <;> exact absurd h (by decide)

theorem length_toHex (b : Bytes) : b.toHex.length = 2 * b.length := by
  rw [Bytes.toHex, String.length_ofList]
  induction b with
  | nil => rfl
  | cons x b ih =>
    rw [List.flatMap_cons, List.length_append, ih, List.length_cons]
    exact (Nat.mul_succ 2 b.length).symm ▸ Nat.add_comm 2 _

@[simp] theorem length_sha256 (b : Bytes) : (Digest.sha256 b).length = 32 := by
  simp [Digest.sha256, Digest.Words.toList, Digest.bigEndian]

theorem isNamed_dirFor (root : String) (module : Bytes) (isPrivate : Bool) :
    (⟨dirFor root (Digest.sha256 module), isPrivate⟩ : Cache).IsNamed := by
  have hplain : Path.IsPlain (Digest.sha256 module).toHex :=
    isPlain_of_length (by rw [length_toHex, length_sha256]; decide)
  have hstack : (⟨(Path.ofString root).isRooted,
      (Path.ofString root).names ++ [(Digest.sha256 module).toHex]⟩ : Path).stack =
      (Digest.sha256 module).toHex :: (Path.ofString root).stack := by
    rw [Path.stack, List.foldl_append]
    exact Path.push_plain hplain _ _
  have hne := List.cons_ne_nil (Digest.sha256 module).toHex (Path.ofString root).stack
  constructor
  · rw [dirFor, Path.join, Path.stack_clean, Path.clean_of_stack_ne_nil (hstack ▸ hne)]
  · rw [dirFor, Path.join, Path.stack_clean]
    exact ⟨_, _, hstack, hplain⟩

theorem make_of_makeDirs_ok {root : String} {digest : Bytes} {w w' : World} (hroot : root ≠ "")
    (h : w.makeDirs (dirFor root digest) = .ok w') :
    make root digest w = (.ok ⟨dirFor root digest, false⟩, w') := by
  rw [make, if_neg hroot, FileWork.bind_apply, FileWork.attempt, h]
  rfl

theorem make_of_makeDirs_error {root : String} {digest : Bytes} {w : World} {why : String}
    (hroot : root ≠ "") (h : w.makeDirs (dirFor root digest) = .error why) :
    ∃ f, make root digest w = (.error f, w) := by
  refine ⟨.io Phase.compile (dirFor root digest).text (some (.plain why)), ?_⟩
  rw [make, if_neg hroot, FileWork.bind_apply, FileWork.attempt, h]
  rfl

section Private

variable {name : String} (hname : Path.IsPlain name)
include hname

theorem isNamed_private : (⟨⟨true, ["tmp", name]⟩, true⟩ : Cache).IsNamed := by
  have htmp : Path.IsPlain "tmp" := isPlain_of_length (by decide)
  have hstack : (⟨true, ["tmp", name]⟩ : Path).stack = [name, "tmp"] := by
    simp [Path.stack, Path.push_plain htmp, Path.push_plain hname]
  exact ⟨by simp [hstack], _, _, hstack, hname⟩

theorem placeOf_private (w : World) : w.placeOf ⟨true, ["tmp", name]⟩ = ["tmp", name] := by
  have htmp : Path.IsPlain "tmp" := isPlain_of_length (by decide)
  simp [World.placeOf, World.startOf, World.step_plain htmp, World.step_plain hname]

end Private

theorem isPlain_private (k : Nat) : Path.IsPlain ("brainwasm-cache-" ++ toString k) := by
  refine isPlain_of_length ?_
  rw [String.length_append]
  exact Nat.lt_of_lt_of_le (by decide : 2 < "brainwasm-cache-".length) (Nat.le_add_right _ _)

end Cache

/-! Engines. -/

namespace Engine

variable {e : Engine}

theorem staysIn_openCache (he : e.backend.Confined) (c : Cache) :
    StaysIn c.dir (e.openCache c) := by
  intro w
  have hkept := he.openCache c.dir w
  unfold Engine.openCache
  split <;> rename_i h <;> rw [h] at hkept <;> exact hkept

theorem world_lower (e : Engine) (bytes : Bytes) (s : Strategy) (cache? : Option Cache) (w : World) :
    (e.lower bytes s cache? w).2 =
      (e.backend.lower (s.runtimeConfig e.memoryLimitPages (cache?.map (·.dir))) bytes w).2 := by
  unfold Engine.lower
  split <;> rename_i h <;> rw [h]

theorem object_of_lower {bytes : Bytes} {s : Strategy} {cache? : Option Cache} {w w' : World}
    {o : Object} (h : e.lower bytes s cache? w = (.ok o, w')) :
    o.cache? = cache? ∧ o.isClosed = false := by
  unfold Engine.lower at h
  split at h
  · obtain ⟨ho, -⟩ := Prod.mk.inj h
    obtain rfl := Except.ok.inj ho
    exact ⟨rfl, rfl⟩
  · cases h
  · cases h

theorem staysIn_lower (he : e.backend.Confined) (bytes : Bytes) (s : Strategy) (c : Cache) :
    StaysIn c.dir (e.lower bytes s (some c)) := by
  intro w
  rw [world_lower]
  refine (he.lower _ bytes w).mono ?_
  rintro place ⟨dir, hdir, hplace⟩
  simp only [Strategy.runtimeConfig, Option.map_some] at hdir
  split at hdir
  · obtain rfl := Option.some.inj hdir
    exact hplace
  · cases hdir

theorem keptOutside_lower_none (he : e.backend.Confined) (bytes : Bytes) (s : Strategy)
    (w : World) : KeptOutside (fun _ => False) w (e.lower bytes s none w).2 := by
  rw [world_lower]
  refine (he.lower _ bytes w).mono ?_
  rintro place ⟨dir, hdir, -⟩
  simp [Strategy.runtimeConfig] at hdir

/-- How the making of an object comes out: the fault has left nothing outside the directories for
native code, nor has the object once it is closed. -/
inductive Made (e : Engine) (w : World) : Except Fault Object × World → Prop
  | failed {f : Fault} {w' : World} (kept : KeptOutside (Cache.Holds e.cacheDir w) w w') :
      Made e w (.error f, w')
  | done {o : Object} {w' : World}
      (kept : KeptOutside (Cache.Holds e.cacheDir w) w (o.close e.backend w').2) :
      Made e w (.ok o, w')

theorem world_close {o : Object} {b : Backend} (h : o.isClosed = false) (w : World) :
    (o.close b w).2 = o.cache?.elim w (·.release w) := by
  simp [Object.close, h]

theorem made_lower_none (he : e.backend.Confined) (bytes : Bytes) (s : Strategy) (w : World) :
    Made e w (e.lower bytes s none w) := by
  have hkept : KeptOutside (Cache.Holds e.cacheDir w) w (e.lower bytes s none w).2 :=
    (keptOutside_lower_none he bytes s w).mono fun _ h => h.elim
  rcases hlower : e.lower bytes s none w with ⟨f | o, w'⟩
  · rw [hlower] at hkept
    exact .failed hkept
  · obtain ⟨hcache, hclosed⟩ := object_of_lower hlower
    rw [hlower] at hkept
    refine .done ?_
    rw [world_close hclosed, hcache]
    exact hkept

def fill (e : Engine) (bytes : Bytes) (s : Strategy) (files : List (String × Bytes)) (c : Cache) :
    FileWork Object := do
  c.restore files
  e.openCache c
  e.lower bytes s (some c)

theorem staysIn_fill (he : e.backend.Confined) {c : Cache} (hc : c.IsNamed) (bytes : Bytes)
    (s : Strategy) (files : List (String × Bytes)) : StaysIn c.dir (e.fill bytes s files c) :=
  .bind (Cache.staysIn_restore hc files) fun _ =>
    .bind (staysIn_openCache he c) fun _ => staysIn_lower he bytes s c

theorem object_of_fill {bytes : Bytes} {s : Strategy} {files : List (String × Bytes)} {c : Cache}
    {w w' : World} {o : Object} (h : e.fill bytes s files c w = (.ok o, w')) :
    o.cache? = some c ∧ o.isClosed = false := by
  obtain ⟨-, w₁, -, h⟩ := FileWork.bind_eq_ok h
  obtain ⟨-, w₂, -, h⟩ := FileWork.bind_eq_ok h
  exact object_of_lower h

/-- Work in a directory leaves behind what is in it, unless the directory is released. -/
theorem made_fill {c : Cache} {bytes : Bytes} {s : Strategy} {files : List (String × Bytes)}
    {w w₁ : World}
    (hkept : ∀ w', KeptOutside (w₁.placeOf c.dir <+: ·) w₁ w' →
      KeptOutside (Cache.Holds e.cacheDir w) w (c.release w'))
    (hfill : StaysIn c.dir (e.fill bytes s files c)) :
    Made e w ((e.fill bytes s files c).orElseUndo c.release w₁) := by
  have hbelow := hfill w₁
  unfold FileWork.orElseUndo
  rcases hrun : e.fill bytes s files c w₁ with ⟨f | o, w'⟩
  · rw [hrun] at hbelow
    exact .failed (hkept w' hbelow)
  · obtain ⟨hcache, hclosed⟩ := object_of_fill hrun
    rw [hrun] at hbelow
    refine .done ?_
    rw [world_close hclosed, hcache]
    exact hkept w' hbelow

theorem made_make (he : e.backend.Confined) (bytes : Bytes) (s : Strategy)
    (files : List (String × Bytes)) (w : World) : Made e w (e.make bytes s files w) := by
  by_cases hs : s = .optimized
  · have hmake : e.make bytes s files w =
        (Cache.make e.cacheDir (Digest.sha256 bytes) >>= fun c =>
          (e.fill bytes s files c).orElseUndo c.release) w := by
      unfold make
      rw [if_pos hs]
      rfl
    rw [hmake, FileWork.bind_apply]
    by_cases hroot : e.cacheDir = ""
    · rw [hroot]
      simp only [Cache.make, if_true]
      cases htemp : w.makeTempDir "brainwasm-cache-" with
      | error why => exact .failed (.refl w)
      | ok r =>
        obtain ⟨dir, w₁⟩ := r
        obtain ⟨k, rfl, rfl, hfresh⟩ := World.makeTempDir_eq_ok htemp
        have hname := Cache.isPlain_private k
        refine made_fill (fun w' h => ?_)
          (staysIn_fill he (Cache.isNamed_private hname) bytes s files)
        rw [Cache.placeOf_private hname] at h
        exact (World.keptOutside_removeAll hfresh (Cache.placeOf_private hname w) h).mono
          fun _ h => h.elim
    · have hin (q : List String)
          (h : w.placeOf (Cache.dirFor e.cacheDir (Digest.sha256 bytes)) <+: q) :
          Cache.Holds e.cacheDir w q := ⟨hroot, bytes, h⟩
      cases hdirs : w.makeDirs (Cache.dirFor e.cacheDir (Digest.sha256 bytes)) with
      | error why =>
        obtain ⟨f, hfault⟩ := Cache.make_of_makeDirs_error hroot hdirs
        rw [hfault]
        exact .failed (.refl w)
      | ok w₁ =>
        rw [Cache.make_of_makeDirs_ok hroot hdirs]
        have hmade := World.keptOutside_makeDirs (hin _ List.prefix_rfl) List.prefix_rfl hdirs
        refine made_fill (fun w' h => ?_)
          (staysIn_fill he (Cache.isNamed_dirFor e.cacheDir bytes false) bytes s files)
        rw [World.placeOf_of_here hmade.here] at h
        exact hmade.trans (h.mono hin)
  · unfold make
    rw [if_neg hs]
    exact made_lower_none he bytes s w

theorem made_compile (he : e.backend.Confined) (bytes : Bytes) (s : Strategy) (w : World) :
    Made e w (e.compile bytes s w) := by
  unfold compile
  split
  · exact made_make he bytes s [] w
  · exact .failed (.refl w)

theorem made_load (he : e.backend.Confined) (bytes : Bytes) (s : Strategy) (w : World) :
    Made e w (e.load bytes s w) := by
  unfold load
  split
  · unfold loadEnvelope
    split
    · exact .failed (.refl w)
    · split
      · exact .failed (.refl w)
      · split
        · exact .failed (.refl w)
        · split
          · exact made_make he _ s _ w
          · exact .failed (.refl w)
  · exact .failed (.refl w)

end Engine

/-! Operations. -/

namespace Pipeline

variable {e : Engine} {target : Target} {o : Optimizer} {shop : Workshop}

/-- What is kept of an object that was made and then closed. -/
theorem kept_close {r : Except Fault Object × World} (hmade : Engine.Made e shop.world r)
    {h : Handle} {shop' : Workshop} (hkeep : shop.keep r = (.ok h, shop')) :
    KeptOutside (Cache.Holds e.cacheDir shop.world) shop.world
      ((Compiler.ofEngine e).close h shop').2.world := by
  cases hmade with
  | failed => cases hkeep
  | done kept =>
    obtain ⟨hh, rfl⟩ := Prod.mk.inj hkeep
    obtain rfl := Except.ok.inj hh
    simpa [Compiler.ofEngine] using kept

theorem kept_error {r : Except Fault Object × World} (hmade : Engine.Made e shop.world r)
    {f : Fault} {shop' : Workshop} (hkeep : shop.keep r = (.error f, shop')) :
    KeptOutside (Cache.Holds e.cacheDir shop.world) shop.world shop'.world := by
  cases hmade with
  | done => cases hkeep
  | failed kept =>
    obtain ⟨-, rfl⟩ := Prod.mk.inj hkeep
    exact kept

theorem state_run (e : Engine) (h : Handle) (a : Allowance) (input : Bytes) (shop : Workshop) :
    ((Compiler.ofEngine e).run h a input shop).2 = shop := by
  simp only [Compiler.ofEngine]
  split <;> rfl

theorem state_serialize (e : Engine) (h : Handle) (sink : Sink) (shop : Workshop) :
    ((Compiler.ofEngine e).serialize h sink shop).2 = shop := by
  simp only [Compiler.ofEngine]
  split <;> rfl

/-- No last action of an engine's pipeline touches its objects or the files. -/
theorem body_standard {last : Action} {body : Build → Handle → Workshop → Reply × Workshop}
    (hbody : last.body? (standard target o e) = some body) (b : Build) (h : Handle)
    (shop : Workshop) : (body b h shop).2 = shop := by
  cases last with
  | execute a input =>
    obtain rfl := Option.some.inj hbody
    exact state_run e h a input shop
  | serialize sink =>
    obtain rfl := Option.some.inj hbody
    exact state_serialize e h sink shop
  | write | standalone =>
    obtain rfl := Option.some.inj hbody
    rfl
  | parse | generate | validate | optimize | compile | close => cases hbody

theorem kept_operate (he : e.backend.Confined) {last : Action}
    {body : Build → Handle → Workshop → Reply × Workshop}
    (hbody : last.body? (standard target o e) = some body) (a : Allowance) (request : Request)
    (shop : Workshop) :
    KeptOutside (Cache.Holds e.cacheDir shop.world) shop.world
      ((standard target o e).operate a request last shop).2.world := by
  have hoperated := operated hbody a request shop
  generalize (standard target o e).operate a request last shop = r at hoperated ⊢
  cases hoperated with
  | unprepared => exact .refl _
  | uncompiled _ work => exact kept_error (e.made_compile he _ _ _) work
  | acted _ work =>
    rw [body_standard hbody]
    exact kept_close (e.made_compile he _ _ _) work

theorem kept_runStored (target : Target) (o : Optimizer) (he : e.backend.Confined)
    (a : Allowance) (object : Bytes) (strategy : Strategy) (input : Bytes) (shop : Workshop) :
    KeptOutside (Cache.Holds e.cacheDir shop.world) shop.world
      ((standard target o e).runStored a object strategy input shop).2.world := by
  have hmade := e.made_load he object strategy shop.world
  unfold runStored
  rcases hload : (standard target o e).compiler.load a object strategy shop with ⟨f | h, shop'⟩
  · exact kept_error hmade hload
  · have hrun := state_run e h a input shop'
    dsimp only [standard]
    rw [hrun]
    exact kept_close hmade hload

end Pipeline
end TapeWasm
