import TapeWasm.Emit.Code
import TapeWasm.Proofs.Machine.Memory
import TapeWasm.Proofs.Machine.Trace

/-!
What the code of each symbol does when it runs: how it changes the variables, the memory and the
streams, and that it leaves the operands and the open blocks as they are.
-/
namespace TapeWasm.Wasm

def Memory.leading (m : Memory) (n : Nat) : Bytes :=
  (List.range n).map m.at_

theorem Memory.toList_extract {m : Memory} {n : Nat} (h : n ≤ m.size) :
    (m.bytes.extract 0 (0 + n)).toList = m.leading n := by
  have hsize : n ≤ m.bytes.size := h
  apply List.ext_getElem
  · simp [leading, hsize]
  · intro i hi _
    have hi : i < n := by simp at hi; omega
    simp [leading, at_, Nat.lt_of_lt_of_le hi hsize]

theorem Memory.leading_congr {m m' : Memory} {n : Nat} (h : ∀ i < n, m'.at_ i = m.at_ i) :
    m'.leading n = m.leading n :=
  List.map_congr_left fun i hi => h i (List.mem_range.mp hi)

theorem Memory.leading_succ (m : Memory) (n : Nat) :
    m.leading (n + 1) = m.leading n ++ [m.at_ n] := by
  simp [leading, List.range_succ]

end TapeWasm.Wasm

namespace TapeWasm.Emit

open Wasm Wasm.Machine

def host : List HostCall := [.read, .write]

/-- The variables while a program runs; the last two never change. -/
def vars (cell cursor : UInt32) : List Value :=
  [.i32 cell, .i32 cursor, .i32 1000, .i32 1008]

/-- The bytes that were put out: those written out, in whole buffers, and those in the buffer. -/
structure Buffered (bytes : Bytes) (memory : Memory) (cursor : UInt32) (output : Array UInt8) :
    Prop where
  room : cursor.toNat < 1000
  whole : output.size % 1000 = 0
  eq : output.toList ++ memory.leading cursor.toNat = bytes

/-- At least one step leads from one machine to another, without effects. -/
abbrev Steps (m m' : Machine) : Prop :=
  Emits host m [] m'

/-- Single bytes are stored in the buffer only, and what is written out are whole buffers. -/
structure Orderly (es : List Effect) (output output' : Array UInt8) : Prop where
  stores : ∀ a ∈ Effect.stores es, a < 1000
  writes : ∀ bytes ∈ Effect.writes es, bytes.length = 1000
  delivered : output'.toList = output.toList ++ (Effect.writes es).flatten

theorem Orderly.quiet (output : Array UInt8) : Orderly [] output output :=
  ⟨nofun, nofun, (List.append_nil _).symm⟩

theorem Orderly.trans {es es' : List Effect} {output output' output'' : Array UInt8}
    (h : Orderly es output output') (h' : Orderly es' output' output'') :
    Orderly (es ++ es') output output'' where
  stores a ha := by
    rw [Effect.stores_append] at ha
    exact (List.mem_append.mp ha).elim (h.stores a) (h'.stores a)
  writes bytes hbytes := by
    rw [Effect.writes_append] at hbytes
    exact (List.mem_append.mp hbytes).elim (h.writes bytes) (h'.writes bytes)
  delivered := by
    rw [h'.delivered, h.delivered, Effect.writes_append, List.flatten_append, List.append_assoc]

section

variable {c : List Instr} {labels : List Wasm.Label} {l : Wasm.Label} {cell cursor v : UInt32}
  {memory : Memory} {input : Bytes} {output : Array UInt8}

theorem steps_prologue {store : Store} :
    Steps ⟨prologue ++ c, labels, [], [.i32 0, .i32 0, .i32 0, .i32 0], store⟩
      ⟨c, labels, [], vars 1024 0, store⟩ :=
  .head next_const <| .head (next_localSet (by decide : 0 < 4)) <|
  .head next_const <| .head (next_localSet (by decide : 1 < 4)) <|
  .head next_const <| .head (next_localSet (by decide : 2 < 4)) <|
  .head next_const <| .single (next_localSet (by decide : 3 < 4))

theorem steps_moveBy_add {store : Store} :
    Steps ⟨moveBy add ++ c, labels, [], vars cell cursor, store⟩
      ⟨c, labels, [], vars (cell + 4) cursor, store⟩ :=
  .head (next_localGet rfl) <| .head next_const <| .head next_add <|
  .single (next_localSet (by decide : 0 < 4))

theorem steps_moveBy_sub {store : Store} :
    Steps ⟨moveBy sub ++ c, labels, [], vars cell cursor, store⟩
      ⟨c, labels, [], vars (cell - 4) cursor, store⟩ :=
  .head (next_localGet rfl) <| .head next_const <| .head next_sub <|
  .single (next_localSet (by decide : 0 < 4))

theorem steps_addToCell_add (h : memory.word? cell.toNat = some v) :
    Steps ⟨addToCell add ++ c, labels, [], vars cell cursor, ⟨memory, input, output⟩⟩
      ⟨c, labels, [], vars cell cursor, ⟨memory.setWord cell.toNat (v + 1), input, output⟩⟩ :=
  .head (next_localGet rfl) <| .head (next_localGet rfl) <| .head (next_load h) <|
  .head next_const <| .head next_add <| .single (next_storeWord (Memory.size_of_word? h))

theorem steps_addToCell_sub (h : memory.word? cell.toNat = some v) :
    Steps ⟨addToCell sub ++ c, labels, [], vars cell cursor, ⟨memory, input, output⟩⟩
      ⟨c, labels, [], vars cell cursor, ⟨memory.setWord cell.toNat (v - 1), input, output⟩⟩ :=
  .head (next_localGet rfl) <| .head (next_localGet rfl) <| .head (next_load h) <|
  .head next_const <| .head next_sub <| .single (next_storeWord (Memory.size_of_word? h))

/-- A loop whose cell is not zero is entered. -/
theorem steps_openLoop_enter {store : Store} (h : store.memory.word? cell.toNat = some v)
    (hv : v ≠ 0) :
    Steps ⟨openLoop ++ c, labels, [], vars cell cursor, store⟩
      ⟨c, .back [] c :: .forward 0 [] :: labels, [], vars cell cursor, store⟩ := by
  have htruth : truth (v == 0) = 0 := by simp [truth, hv]
  refine .head next_block <| .head (next_localGet rfl) <| .head (next_load h) <|
    .head next_eqz ?_
  rw [htruth]
  exact .head next_brIf_zero (.single next_loop)

/-- A loop whose cell is zero is left at once. -/
theorem steps_openLoop_skip {store : Store} (h : store.memory.word? cell.toNat = some 0)
    {rest : List Instr} (hrest : afterEnd 1 c = some rest) :
    Steps ⟨openLoop ++ c, l :: labels, [], vars cell cursor, store⟩
      ⟨rest, l :: labels, [], vars cell cursor, store⟩ :=
  .head next_block <| .head (next_localGet rfl) <| .head (next_load h) <| .head next_eqz <|
  .single (next_brIf_forward (by decide) hrest)

theorem steps_closeLoop_again {store : Store} (h : store.memory.word? cell.toNat = some v)
    (hv : v ≠ 0) {body : List Instr} :
    Steps ⟨closeLoop ++ c, .back [] body :: labels, [], vars cell cursor, store⟩
      ⟨body, .back [] body :: labels, [], vars cell cursor, store⟩ := by
  have htruth : truth (v != 0) ≠ 0 := by simp [truth, hv]
  exact .head (next_localGet rfl) <| .head (next_load h) <| .head next_const <| .head next_ne <|
    .single (next_brIf_back htruth)

theorem steps_closeLoop_leave {store : Store} (h : store.memory.word? cell.toNat = some 0)
    {body : List Instr} :
    Steps ⟨closeLoop ++ c, .back [] body :: .forward 0 [] :: l :: labels, [], vars cell cursor,
        store⟩
      ⟨c, l :: labels, [], vars cell cursor, store⟩ :=
  .head (next_localGet rfl) <| .head (next_load h) <| .head next_const <| .head next_ne <|
  .head next_brIf_zero <| .head next_stop <| .single next_stop

theorem descriptors?_one {a n : UInt32} (ha : memory.word? 1008 = some a)
    (hn : memory.word? 1012 = some n) :
    Store.descriptors? memory (1 : UInt32).toNat layout.descriptor.toNat =
      some [(a.toNat, n.toNat)] := by
  change Store.descriptors? memory 1 1008 = _
  simp [Store.descriptors?, ha, hn]

/-- The host writes out what the descriptor describes, here the first bytes of the memory. -/
theorem call_write {n : UInt32} (hsize : 1024 ≤ memory.size) (ha : memory.word? 1008 = some 0)
    (hn : memory.word? 1012 = some n) (hle : n.toNat ≤ memory.size) :
    Store.call ⟨memory, input, output⟩ .write stdout layout.descriptor 1 layout.countAddr =
      (⟨memory.setWord 1016 n, input, output ++ (memory.leading n.toNat).toArray⟩, 0) := by
  have hds := descriptors?_one ha hn
  have hslice : memory.slice? 0 n.toNat = some (memory.leading n.toNat).toArray := by
    rw [Memory.slice?, if_pos (by omega), ← Memory.toList_extract hle]
  have hgather : Store.gather ⟨memory, input, output⟩ [(0, n.toNat)] 0 =
      (⟨memory, input, output ++ (memory.leading n.toNat).toArray⟩, some n.toNat) := by
    simp [Store.gather, hslice]
  have hcall : Store.call ⟨memory, input, output⟩ .write stdout layout.descriptor 1
      layout.countAddr = Store.conclude (Store.gather ⟨memory, input, output⟩ [(0, n.toNat)] 0)
        1016 := by
    simp only [Store.call, hds]
    rfl
  rw [hcall, hgather, Store.conclude, if_pos (by simp only; omega), UInt32.ofNat_toNat]
  rfl

theorem call_read_eq {a : UInt32} (ha : memory.word? 1008 = some a)
    (hn : memory.word? 1012 = some 1) :
    Store.call ⟨memory, input, output⟩ .read stdin layout.descriptor 1 layout.countAddr =
      Store.conclude (Store.scatter ⟨memory, input, output⟩ [(a.toNat, 1)] 0) 1016 := by
  simp only [Store.call, descriptors?_one ha hn]
  rfl

/-- The host reads at most one byte to where the descriptor says. -/
theorem call_read {a : UInt32} (hsize : 1024 ≤ memory.size) (ha : memory.word? 1008 = some a)
    (hn : memory.word? 1012 = some 1) (hle : a.toNat + 1 ≤ memory.size) :
    Store.call ⟨memory, input, output⟩ .read stdin layout.descriptor 1 layout.countAddr =
      (⟨(memory.fill a.toNat (input.take 1)).setWord 1016 (UInt32.ofNat (input.take 1).length),
        input.drop 1, output⟩, 0) := by
  have hscatter : Store.scatter ⟨memory, input, output⟩ [(a.toNat, 1)] 0 =
      (⟨memory.fill a.toNat (input.take 1), input.drop 1, output⟩, some (input.take 1).length) := by
    cases input <;> simp [Store.scatter, hle]
  rw [call_read_eq ha hn, hscatter, Store.conclude,
    if_pos (by simp only [Memory.size_fill]; omega)]
  rfl

/-- The host refuses to read to where there is no memory, and leaves all as it is. -/
theorem call_read_beyond {a : UInt32} (ha : memory.word? 1008 = some a)
    (hn : memory.word? 1012 = some 1) (hle : memory.size ≤ a.toNat) :
    Store.call ⟨memory, input, output⟩ .read stdin layout.descriptor 1 layout.countAddr =
      (⟨memory, input, output⟩, Errno.fault) := by
  have hscatter : Store.scatter ⟨memory, input, output⟩ [(a.toNat, 1)] 0 =
      (⟨memory, input, output⟩, none) := by
    rw [Store.scatter, if_neg (by simp only; omega)]
  rw [call_read_eq ha hn, hscatter, Store.conclude]

theorem steps_transfer {stream func errno : UInt32} {call : HostCall} {store store' : Store}
    (hf : host[func.toNat]? = some call)
    (h : store.call call stream layout.descriptor 1 layout.countAddr = (store', errno)) :
    Emits host ⟨transfer stream func ++ c, labels, [], vars cell cursor, store⟩
      (call.effects store store') ⟨c, labels, [], vars cell cursor, store'⟩ := by
  have hnext := @next_call host (drop :: c) labels [] (vars cell cursor) store func call hf
    layout.countAddr 1 layout.descriptor stream
  have hobserve := @observe_call host func call hf (drop :: c) labels layout.countAddr 1
    layout.descriptor stream [] (vars cell cursor) store
  rw [h] at hnext hobserve
  have hcall := Emits.head hnext (.single next_drop)
  rw [hobserve] at hcall
  rw [← List.append_nil (call.effects store store')]
  exact .head next_const <| .head (next_localGet rfl) <| .head next_const <|
    .head next_const hcall

/-- The buffer is written out and empty afterwards. Of the memory only the descriptor and the count
behind it change. -/
theorem steps_flush (hsize : 1024 ≤ memory.size) (hroom : cursor.toNat ≤ 1000) :
    ∃ memory' : Memory, memory'.size = memory.size ∧
      (∀ i, i < 1008 ∨ 1024 ≤ i → memory'.at_ i = memory.at_ i) ∧
      Emits host ⟨flush ++ c, labels, [], vars cell cursor, ⟨memory, input, output⟩⟩
        [.wrote (memory.leading cursor.toNat)]
        ⟨c, labels, [], vars cell 0,
          ⟨memory', input, output ++ (memory.leading cursor.toNat).toArray⟩⟩ := by
  let memory₁ := (memory.setWord 1008 0).setWord 1012 cursor
  have hsize₁ : memory₁.size = memory.size := by simp [memory₁]
  have hat (i : Nat) (hi : i < 1008 ∨ 1016 ≤ i) : memory₁.at_ i = memory.at_ i := by
    rw [Memory.at_setWord _ (by omega), Memory.at_setWord _ (by omega)]
  have hcall := @call_write memory₁ input output cursor (by omega)
    (by rw [Memory.word?_setWord_of_disjoint _ (by omega), Memory.word?_setWord_self _ (by omega)])
    (Memory.word?_setWord_self _ (by simp; omega)) (by omega)
  rw [Memory.leading_congr fun i hi => hat i (by omega)] at hcall
  refine ⟨memory₁.setWord 1016 cursor, by simp [hsize₁], fun i hi => ?_, ?_⟩
  · rw [Memory.at_setWord _ (by omega), hat i (by omega)]
  · have hsub : cursor - layout.outputStart.toInt32.toUInt32 = cursor := UInt32.sub_zero cursor
    have htransfer := @steps_transfer ([const layout.outputStart, set Var.cursor] ++ c) labels
      cell cursor stdout Func.write _ .write _ _ rfl hcall
    have hempty : Steps
        ⟨[const layout.outputStart, set Var.cursor] ++ c, labels, [], vars cell cursor,
          ⟨memory₁.setWord 1016 cursor, input,
            output ++ (memory.leading cursor.toNat).toArray⟩⟩
        ⟨c, labels, [], vars cell 0, ⟨memory₁.setWord 1016 cursor, input,
            output ++ (memory.leading cursor.toNat).toArray⟩⟩ :=
      .head next_const <| .single (next_localSet (by decide : 1 < 4))
    have hwrote := htransfer.trans hempty
    rw [show HostCall.effects .write _ _ = [.wrote (memory.leading cursor.toNat)] by
      simp [HostCall.effects]] at hwrote
    refine .head (next_localGet rfl) <| .head next_const <|
      .head (next_storeWord (show 1008 + 0 + 4 ≤ memory.size by omega)) <|
      .head (next_localGet rfl) <| .head (next_localGet rfl) <| .head next_const <|
      .head next_sub ?_
    rw [hsub]
    exact .head (next_storeWord (show 1008 + 4 + 4 ≤ _ by simp; omega)) hwrote

/-- The lowest byte of the cell goes to the buffer. -/
theorem steps_putByte (hsize : 1024 ≤ memory.size) (h : memory.word? cell.toNat = some v)
    (hroom : cursor.toNat < 1000) :
    Emits host ⟨Emit.output ++ c, labels, [], vars cell cursor, ⟨memory, input, output⟩⟩
      [.storedByte cursor.toNat]
      ⟨[⟨Op.i32Eq, .none⟩, ifThen] ++ flush ++ stop :: c, labels,
        [.i32 1000, .i32 (cursor + 1)], vars cell (cursor + 1),
        ⟨memory.setByte cursor.toNat v.toUInt8, input, output⟩⟩ :=
  .head (next_localGet rfl) <| .head (next_localGet rfl) <| .head (next_load h) <|
  .head (next_storeByte (show cursor.toNat + 0 < memory.size by omega)) <|
  .head (next_localGet rfl) <| .head next_const <| .head next_add <|
  .head (next_localSet (by decide : 1 < 4)) <| .head (next_localGet rfl) <|
  .single (next_localGet rfl)

/-- One byte more is put out, and the tape stays as it is. -/
theorem steps_output (hsize : 1024 ≤ memory.size) (h : memory.word? cell.toNat = some v)
    (hroom : cursor.toNat < 1000) :
    ∃ memory' cursor' output' es, memory'.size = memory.size ∧
      (∀ i, 1024 ≤ i → memory'.at_ i = memory.at_ i) ∧ cursor'.toNat < 1000 ∧
      (∀ bytes, Buffered bytes memory cursor output →
        Buffered (bytes ++ [v.toUInt8]) memory' cursor' output') ∧
      Orderly es output output' ∧
      Emits host ⟨Emit.output ++ c, l :: labels, [], vars cell cursor, ⟨memory, input, output⟩⟩
        es ⟨c, l :: labels, [], vars cell cursor', ⟨memory', input, output'⟩⟩ := by
  let memory₁ := memory.setByte cursor.toNat v.toUInt8
  have hsize₁ : memory₁.size = memory.size := by simp [memory₁]
  have hnext : (cursor + 1).toNat = cursor.toNat + 1 := by
    rw [UInt32.toNat_add, UInt32.toNat_one]
    omega
  have hleading : memory₁.leading (cursor + 1).toNat =
      memory.leading cursor.toNat ++ [v.toUInt8] := by
    rw [hnext, Memory.leading_succ, Memory.at_setByte_self _ (by omega),
      Memory.leading_congr fun i hi => Memory.at_setByte_ne _ (by omega)]
  have hstore := @steps_putByte c (l :: labels) cell cursor v memory input output hsize h hroom
  by_cases hfull : cursor + 1 = 1000
  · -- The buffer is full and written out as a whole.
    have htruth : truth (cursor + 1 == 1000) ≠ 0 := by simp [truth, hfull]
    have hlen : (memory₁.leading (cursor + 1).toNat).length = 1000 := by
      rw [hfull]
      simp [Memory.leading]
    obtain ⟨memory₂, hsize₂, hat, hflush⟩ := @steps_flush (stop :: c)
      (.forward 0 [] :: l :: labels) cell (cursor + 1) memory₁ input output (by omega) (by omega)
    have hwrite : Emits host
        ⟨[⟨Op.i32Eq, .none⟩, ifThen] ++ flush ++ stop :: c, l :: labels,
          [.i32 1000, .i32 (cursor + 1)], vars cell (cursor + 1), ⟨memory₁, input, output⟩⟩
        [.wrote (memory₁.leading (cursor + 1).toNat)]
        ⟨c, l :: labels, [], vars cell 0,
          ⟨memory₂, input, output ++ (memory₁.leading (cursor + 1).toNat).toArray⟩⟩ :=
      .head next_eq <| .head (next_ifThen htruth) <| hflush.trans (.single next_stop)
    refine ⟨memory₂, 0, _, _, by omega, fun i hi => ?_, by decide,
      fun bytes hb => ⟨by decide, ?_, ?_⟩, ⟨?_, ?_, ?_⟩, hstore.trans hwrite⟩
    · rw [hat i (by omega), Memory.at_setByte_ne _ (by omega)]
    · have := hb.whole
      simp only [Array.size_append, List.size_toArray, hlen]
      omega
    · rw [hleading, ← hb.eq]
      simp [Memory.leading]
    · simpa using hroom
    · simpa using hlen
    · simp
  · have htruth : truth (cursor + 1 == 1000) = 0 := by simp [truth, hfull]
    have hne : (cursor + 1).toNat ≠ 1000 := fun he => hfull (UInt32.toNat_inj.mp he)
    have hskip : Steps
        ⟨[⟨Op.i32Eq, .none⟩, ifThen] ++ flush ++ stop :: c, l :: labels,
          [.i32 1000, .i32 (cursor + 1)], vars cell (cursor + 1), ⟨memory₁, input, output⟩⟩
        ⟨c, l :: labels, [], vars cell (cursor + 1), ⟨memory₁, input, output⟩⟩ := by
      refine .head next_eq ?_
      rw [htruth]
      exact .single (next_ifThen_skip rfl)
    refine ⟨memory₁, cursor + 1, output, _, hsize₁, fun i hi => Memory.at_setByte_ne _ (by omega),
      by omega, fun bytes hb => ⟨by omega, hb.whole, ?_⟩, ⟨?_, ?_, ?_⟩, hstore.trans hskip⟩
    · rw [hleading, ← hb.eq, List.append_assoc]
    · simpa using hroom
    · simp
    · simp

/-- A byte of the input, if there is one, is put where the cell has its lowest byte. -/
theorem steps_input (hsize : 1024 ≤ memory.size) (hcell : cell.toNat + 1 ≤ memory.size) :
    ∃ memory', memory'.size = memory.size ∧
      (∀ i, i < 1008 ∨ 1024 ≤ i →
        memory'.at_ i = (memory.fill cell.toNat (input.take 1)).at_ i) ∧
      Steps ⟨Emit.input ++ c, labels, [], vars cell cursor, ⟨memory, input, output⟩⟩
        ⟨c, labels, [], vars cell cursor, ⟨memory', input.drop 1, output⟩⟩ := by
  let memory₁ := (memory.setWord 1008 cell).setWord 1012 1
  have hsize₁ : memory₁.size = memory.size := by simp [memory₁]
  have hcall := @call_read memory₁ input output cell (by omega)
    (by rw [Memory.word?_setWord_of_disjoint _ (by omega), Memory.word?_setWord_self _ (by omega)])
    (Memory.word?_setWord_self _ (by simp; omega)) (by omega)
  have hread := @steps_transfer c labels cell cursor stdin Func.read _ .read _ _ rfl hcall
  refine ⟨_, by simp [hsize₁], fun i hi => ?_,
    .head (next_localGet rfl) <| .head (next_localGet rfl) <|
    .head (next_storeWord (show 1008 + 0 + 4 ≤ memory.size by omega)) <|
    .head (next_localGet rfl) <| .head next_const <|
    .head (next_storeWord (show 1008 + 4 + 4 ≤ _ by simp; omega)) hread⟩
  rw [Memory.at_setWord _ (by omega)]
  apply Memory.at_fill_congr hsize₁
  rw [Memory.at_setWord _ (by omega), Memory.at_setWord _ (by omega)]

/-- A read to where there is no memory only leaves its descriptor behind. -/
theorem steps_input_beyond (hsize : 1024 ≤ memory.size) (hcell : memory.size ≤ cell.toNat) :
    Steps ⟨Emit.input ++ c, labels, [], vars cell cursor, ⟨memory, input, output⟩⟩
      ⟨c, labels, [], vars cell cursor,
        ⟨(memory.setWord 1008 cell).setWord 1012 1, input, output⟩⟩ := by
  have hcall := @call_read_beyond ((memory.setWord 1008 cell).setWord 1012 1) input output cell
    (by rw [Memory.word?_setWord_of_disjoint _ (by omega), Memory.word?_setWord_self _ (by omega)])
    (Memory.word?_setWord_self _ (by simp; omega)) (by simpa using hcell)
  have hread := @steps_transfer c labels cell cursor stdin Func.read _ .read _ _ rfl hcall
  exact .head (next_localGet rfl) <| .head (next_localGet rfl) <|
    .head (next_storeWord (show 1008 + 0 + 4 ≤ memory.size by omega)) <|
    .head (next_localGet rfl) <| .head next_const <|
    .head (next_storeWord (show 1008 + 4 + 4 ≤ _ by simp; omega)) hread

/-- The end of a program writes out what is in the buffer and returns. -/
theorem steps_epilogue (hsize : 1024 ≤ memory.size) (hroom : cursor.toNat ≤ 1000) :
    ∃ memory' : Memory, ∃ m r, memory'.size = memory.size ∧
      (∀ i, 1024 ≤ i → memory'.at_ i = memory.at_ i) ∧
      r.store = ⟨memory', input, output ++ (memory.leading cursor.toNat).toArray⟩ ∧
      Emits host ⟨epilogue, [.forward 0 []], [], vars cell cursor, ⟨memory, input, output⟩⟩
        [.wrote (memory.leading cursor.toNat)] m ∧
      step host m = .finished r := by
  obtain ⟨memory', hsize', hat, hflush⟩ := @steps_flush [stop] [.forward 0 []] cell cursor memory
    input output hsize hroom
  exact ⟨memory', _, _, hsize', fun i hi => hat i (by omega), rfl, hflush, rfl⟩

end

end TapeWasm.Emit
