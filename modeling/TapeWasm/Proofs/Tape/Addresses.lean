import Mathlib.Order.Interval.Set.Basic
import TapeWasm.Proofs.Machine.Memory
import TapeWasm.Tape.Layout

/-!
Addresses of cells and what is read back from them. Sums and products of 32 bits are those of the
numbers as long as the memory ends below the last address, so that cells lie side by side in the tape.
Reading stops where the memory ends; what is read are the words of the cells that lie in it as a whole.
-/
namespace TapeWasm

open Wasm (Memory)

namespace Layout

variable {l : Layout}

/-- Cells are not empty, the tape starts in the memory or at its end, and addresses of 32 bits go past
the end. -/
structure Admissible (l : Layout) : Prop where
  cell : 0 < l.cellBytes
  pages : l.pages < 65536
  start : l.tapeStart.toNat ≤ l.pages.toNat * 65536

def cellSpan (l : Layout) (i : Nat) : Set Nat :=
  Set.Ico (l.cellAddress i).toNat ((l.cellAddress i).toNat + l.cellBytes.toNat)

/-- Cells fill the tape from its start, side by side, until no other fits. -/
structure Tiled (l : Layout) : Prop where
  address : ∀ i < l.cells, (l.cellAddress i).toNat = l.tapeStart.toNat + i * l.cellBytes.toNat
  inside : ∀ i < l.cells, l.cellSpan i ⊆ Set.Ico l.tapeStart.toNat (l.pages.toNat * 65536)
  disjoint : ∀ i < l.cells, ∀ j < l.cells, i ≠ j → l.cellSpan i ∩ l.cellSpan j = ∅
  full : l.pages.toNat * 65536 < l.tapeStart.toNat + (l.cells + 1) * l.cellBytes.toNat

theorem Admissible.cellBytes_pos (h : l.Admissible) : 0 < l.cellBytes.toNat :=
  UInt32.lt_iff_toNat_lt.mp h.cell

theorem Admissible.end_lt (h : l.Admissible) : l.pages.toNat * 65536 < UInt32.size := by
  have hpages : l.pages.toNat < 65536 := UInt32.lt_iff_toNat_lt.mp h.pages
  have hsize : UInt32.size = 65536 * 65536 := by decide
  omega

theorem cells_eq (h : l.Admissible) :
    l.cells = (l.pages.toNat * 65536 - l.tapeStart.toNat) / l.cellBytes.toNat := by
  have hend : (l.pages * 65536).toNat = l.pages.toNat * 65536 := by
    rw [UInt32.toNat_mul]
    exact Nat.mod_eq_of_lt h.end_lt
  have hle : l.tapeStart ≤ l.pages * 65536 := by
    rw [UInt32.le_iff_toNat_le, hend]
    exact h.start
  rw [cells, UInt32.toNat_div, UInt32.toNat_sub_of_le _ _ hle, hend]

/-- The cells end before the end of the memory. -/
theorem end_of_cells_le (h : l.Admissible) :
    l.tapeStart.toNat + l.cells * l.cellBytes.toNat ≤ l.pages.toNat * 65536 := by
  have hmul : l.cells * l.cellBytes.toNat ≤ l.pages.toNat * 65536 - l.tapeStart.toNat := by
    rw [cells_eq h]
    exact Nat.div_mul_le_self _ _
  have hstart := h.start
  omega

/-- The end of a cell is not past the end of all cells. -/
theorem end_of_cell_le {i : Nat} (hi : i < l.cells) :
    i * l.cellBytes.toNat + l.cellBytes.toNat ≤ l.cells * l.cellBytes.toNat := by
  rw [← Nat.succ_mul]
  exact Nat.mul_le_mul_right _ hi

theorem cellAddress_of_lt_cells (h : l.Admissible) {i : Nat} (hi : i < l.cells) :
    (l.cellAddress i).toNat = l.tapeStart.toNat + i * l.cellBytes.toNat := by
  have hsize : i < UInt32.size := hi.trans (UInt32.toNat_lt_size _)
  have hindex : ((i : Int) % UInt32.size).toNat = i := by
    rw [Int.emod_eq_of_lt (Int.natCast_nonneg i) (Int.ofNat_lt.mpr hsize), Int.toNat_natCast]
  have hbound : l.tapeStart.toNat + i * l.cellBytes.toNat < UInt32.size := by
    have hcell := end_of_cell_le hi
    have hcells := end_of_cells_le h
    have hend := h.end_lt
    omega
  have hproduct : i * l.cellBytes.toNat < UInt32.size := by omega
  rw [cellAddress, hindex, UInt32.toNat_add, UInt32.toNat_mul, UInt32.toNat_ofNat_of_lt' hsize,
    Nat.mod_eq_of_lt hproduct, Nat.mod_eq_of_lt hbound]

/-- Of two cells the one with the smaller number ends before the other starts. -/
theorem cell_before_cell (h : l.Admissible) {i j : Nat} (hij : i < j) (hj : j < l.cells) :
    (l.cellAddress i).toNat + l.cellBytes.toNat ≤ (l.cellAddress j).toNat := by
  rw [cellAddress_of_lt_cells h (hij.trans hj), cellAddress_of_lt_cells h hj]
  have hmul : (i + 1) * l.cellBytes.toNat ≤ j * l.cellBytes.toNat := Nat.mul_le_mul_right _ hij
  rw [Nat.succ_mul] at hmul
  omega

theorem tiled (h : l.Admissible) : l.Tiled where
  address _ hi := cellAddress_of_lt_cells h hi
  inside := by
    intro i hi x hx
    rw [cellSpan, Set.mem_Ico, cellAddress_of_lt_cells h hi] at hx
    have hcell := end_of_cell_le hi
    have hcells := end_of_cells_le h
    rw [Set.mem_Ico]
    omega
  disjoint := by
    intro i hi j hj hne
    rw [Set.eq_empty_iff_forall_notMem]
    rintro x ⟨hxi, hxj⟩
    rw [cellSpan, Set.mem_Ico] at hxi hxj
    rcases Nat.lt_or_gt_of_ne hne with hij | hji
    · have hbefore := cell_before_cell h hij hj
      omega
    · have hbefore := cell_before_cell h hji hi
      omega
  full := by
    have hlt := Nat.lt_mul_div_succ (l.pages.toNat * 65536 - l.tapeStart.toNat) h.cellBytes_pos
    rw [← cells_eq h, Nat.mul_comm l.cellBytes.toNat] at hlt
    omega

theorem admissible_standard : standard.Admissible := by
  constructor <;> decide

end Layout

/-- The value of a word is the sum of its bytes by their places. -/
theorem Bytes.toNat_word (b₀ b₁ b₂ b₃ : UInt8) :
    (word b₀ b₁ b₂ b₃).toNat =
      b₀.toNat + 256 * b₁.toNat + 65536 * b₂.toNat + 16777216 * b₃.toNat := by
  have hbytes := ofWord_word b₀ b₁ b₂ b₃
  simp only [ofWord, List.cons.injEq, and_true] at hbytes
  obtain ⟨h₀, h₁, h₂, h₃⟩ := hbytes
  have hlt : (word b₀ b₁ b₂ b₃).toNat < 4294967296 := UInt32.toNat_lt _
  replace h₀ := congrArg UInt8.toNat h₀
  replace h₁ := congrArg UInt8.toNat h₁
  replace h₂ := congrArg UInt8.toNat h₂
  replace h₃ := congrArg UInt8.toNat h₃
  simp only [UInt32.toNat_toUInt8, UInt32.toNat_shiftRight, UInt32.reduceToNat,
    Nat.shiftRight_eq_div_pow, Nat.reduceMod, Nat.reducePow] at h₀ h₁ h₂ h₃
  omega

namespace Wasm.Memory

/-- The number that the four bytes from an address on stand for, lowest byte first. -/
def number (m : Memory) (a : Nat) : Nat :=
  (m.at_ a).toNat + 256 * (m.at_ (a + 1)).toNat + 65536 * (m.at_ (a + 2)).toNat +
    16777216 * (m.at_ (a + 3)).toNat

/-- The number of whole cells of the tape that lie in the memory. -/
def wholeCells (m : Memory) : Nat :=
  (m.size - 1024) / 4

theorem lt_wholeCells_iff {m : Memory} {i : Nat} :
    i < m.wholeCells ↔ 1024 + 4 * i + 4 ≤ m.size := by
  unfold wholeCells
  omega

theorem exists_word?_of_lt {m : Memory} {i : Nat} (h : i < m.wholeCells) :
    ∃ w, m.word? (1024 + 4 * i) = some w ∧ w.toNat = m.number (1024 + 4 * i) :=
  ⟨_, if_pos (lt_wholeCells_iff.mp h), Bytes.toNat_word _ _ _ _⟩

theorem word?_of_not_lt {m : Memory} {i : Nat} (h : ¬ i < m.wholeCells) :
    m.word? (1024 + 4 * i) = none :=
  if_neg fun hsize => h (lt_wholeCells_iff.mpr hsize)

end Wasm.Memory

/-- The loop reads the cells that it is asked for, up to the last that lies in the memory. -/
theorem toNat_cellsFrom (m : Memory) {n i : Nat} (h : i + n ≤ Layout.standard.cells)
    (acc : List UInt32) :
    (cellsFrom m n i acc).map UInt32.toNat = acc.reverse.map UInt32.toNat ++
      (List.range' i (min n (m.wholeCells - i))).map fun j => m.number (1024 + 4 * j) := by
  induction n generalizing i acc with
  | zero => simp [cellsFrom]
  | succ n ih =>
    have haddress : (Layout.standard.cellAddress i).toNat = 1024 + i * 4 :=
      Layout.cellAddress_of_lt_cells Layout.admissible_standard (by omega)
    rw [cellsFrom, haddress, Nat.mul_comm]
    by_cases hi : i < m.wholeCells
    · obtain ⟨w, hw, hnumber⟩ := Memory.exists_word?_of_lt hi
      have hcount : min (n + 1) (m.wholeCells - i) = min n (m.wholeCells - (i + 1)) + 1 := by omega
      rw [hw, hcount, List.range'_succ]
      simp only
      rw [ih (by omega)]
      simp [hnumber]
    · have hcount : min (n + 1) (m.wholeCells - i) = 0 := by omega
      rw [Memory.word?_of_not_lt hi, hcount]
      simp

/-- In a layout whose memory ends below the last address, cells have the addresses that the numbers
give, lie in the tape side by side, and are as many as fit. Reading back `n` cells gives those of the
first `n` that are on the tape and lie in the memory as a whole, lowest byte first. -/
theorem tape_addressed_and_read_back (l : Layout) (hl : l.Admissible) (m : Memory) (n : Nat) :
    l.Tiled ∧
    (leadingCells m n).map UInt32.toNat =
      (List.range (min n (min 48896 m.wholeCells))).map fun i => m.number (1024 + 4 * i) := by
  refine ⟨Layout.tiled hl, ?_⟩
  have hcells : Layout.standard.cells = 48896 := by decide
  rw [leadingCells, Int.toNat_natCast, toNat_cellsFrom m (by omega), List.range_eq_range', hcells,
    Nat.sub_zero, Nat.min_assoc]
  rfl

/-- Cells of three bytes almost up to the last address, and a memory that ends in the third cell. -/
theorem tape_addressed_and_read_back_odd :
    let l : Layout := { Layout.standard with tapeStart := 7, cellBytes := 3, pages := 65535 }
    let m : Memory := ⟨Array.replicate 1033 1⟩
    l.Admissible ∧ l.Tiled ∧ l.cells = 1431633917 ∧ m.wholeCells = 2 ∧
      (leadingCells m 5).map UInt32.toNat = [16843009, 16843009] := by
  intro l m
  have hl : l.Admissible := by constructor <;> decide
  obtain ⟨htiled, hread⟩ := tape_addressed_and_read_back l hl m 5
  have hwhole : m.wholeCells = 2 := by simp [m, Memory.wholeCells, Memory.size]
  rw [hwhole] at hread
  exact ⟨hl, htiled, by decide, hwhole, hread.trans (by decide +kernel)⟩

end TapeWasm
