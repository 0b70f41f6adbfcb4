import Mathlib.Data.List.Basic
import TapeWasm.Proofs.Source.Filter
import TapeWasm.Proofs.Source.Matching

/-!
Where the symbols of a text are. The filter keeps offset, line and column while it goes over the
text; after any part of the text they are the length of the part, the newlines in it, and the length
of its last line. So the places of a program are those of the alphabet in its text, and a program
written out and read again has the same symbols.
-/
namespace TapeWasm

namespace Position

/-- The bytes after the last newline, all of them if there is none. -/
def lastLine (text : Bytes) : Bytes :=
  (text.reverse.takeWhile (· ≠ 10)).reverse

def after (text : Bytes) : Position :=
  ⟨text.length, 1 + text.count 10, 1 + (lastLine text).length⟩

@[simp] theorem after_nil : after [] = start := rfl

theorem lastLine_concat (text : Bytes) (b : UInt8) :
    lastLine (text ++ [b]) = if b = 10 then [] else lastLine text ++ [b] := by
  by_cases hb : b = 10 <;> simp [lastLine, hb]

theorem advance_after (text : Bytes) (b : UInt8) :
    (after text).advance b = after (text ++ [b]) := by
  by_cases hb : b = 10
  · simp [after, advance, lastLine_concat, hb, Int.add_assoc]
  · have hcount : [b].count 10 = 0 := List.count_eq_zero.mpr (by simpa using Ne.symm hb)
    simp [after, advance, lastLine_concat, hb, hcount, Int.add_assoc]

end Position

namespace Program

open Position (after)

def marks (text : Bytes) : List (UInt8 × Nat) :=
  text.zipIdx.filter fun m => inAlphabet m.1

/-- One byte more of the text and one place further: what was read before decides the place. -/
theorem filterFrom_after (before text : Bytes) (acc : List (UInt8 × Position)) :
    filterFrom text (after before) acc = acc.reverse ++
      ((text.zipIdx before.length).filter fun m => inAlphabet m.1).map fun m =>
        (m.1, after ((before ++ text).take m.2)) := by
  induction text generalizing before acc with
  | nil => simp [filterFrom]
  | cons b r ih =>
    have hwhole : before ++ b :: r = before ++ [b] ++ r := by simp
    rw [filterFrom, Position.advance_after, ih, List.length_append, List.length_singleton, hwhole,
      List.zipIdx_cons]
    by_cases hb : inAlphabet b
    · simp [hb]
    · simp [hb]

theorem filterFrom_start (text : Bytes) : filterFrom text Position.start [] =
    (marks text).map fun m => (m.1, after (text.take m.2)) :=
  filterFrom_after [] text []

theorem symbols_eq_marks (text : Bytes) : (filter text).symbols = (marks text).map (·.1) := by
  simp [filter, filterFrom_start]

theorem positions_eq_marks (text : Bytes) :
    (filter text).positions = (marks text).map fun m => after (text.take m.2) := by
  simp [filter, filterFrom_start]

theorem mem_marks {text : Bytes} {b : UInt8} {k : Nat} :
    (b, k) ∈ marks text ↔ text[k]? = some b ∧ inAlphabet b = true := by
  simp [marks, List.mem_zipIdx_iff_getElem?]

theorem marks_sorted (text : Bytes) : (marks text).Pairwise fun m m' => m.2 < m'.2 := by
  have hrange : (text.zipIdx.map (·.2)).Pairwise (· < ·) := by
    rw [List.zipIdx_map_snd]
    exact List.pairwise_lt_range'
  exact (List.pairwise_map.mp hrange).filter _

theorem offset_of_mem_marks {text : Bytes} {m : UInt8 × Nat} (h : m ∈ marks text) :
    (after (text.take m.2)).offset = m.2 := by
  obtain ⟨hlt, -⟩ := List.getElem?_eq_some_iff.mp (mem_marks.mp h).1
  have hlen : (text.take m.2).length = m.2 := List.length_take_of_le hlt.le
  simp [after, hlen]

theorem inAlphabet_iff {b : UInt8} : inAlphabet b = true ↔ ∃ s : Symbol, b = s.toByte := by
  simp only [inAlphabet, Option.isSome_iff_exists, ofByte?_eq_some_iff]

theorem positions_sorted (text : Bytes) :
    (filter text).positions.Pairwise fun p q => p.offset < q.offset := by
  rw [positions_eq_marks, List.pairwise_map]
  refine (marks_sorted text).imp_of_mem fun {m m'} hm hm' h => ?_
  rw [offset_of_mem_marks hm, offset_of_mem_marks hm']
  exact_mod_cast h

/-- Every byte of the alphabet has a place, and no other byte. -/
theorem exists_offset_iff (text : Bytes) (n : Int) :
    (∃ p ∈ (filter text).positions, p.offset = n) ↔
      ∃ (k : Nat) (s : Symbol), n = k ∧ text[k]? = some s.toByte := by
  rw [positions_eq_marks]
  constructor
  · rintro ⟨p, hp, rfl⟩
    obtain ⟨⟨b, k⟩, hm, rfl⟩ := List.mem_map.mp hp
    obtain ⟨hk, hb⟩ := mem_marks.mp hm
    obtain ⟨s, rfl⟩ := inAlphabet_iff.mp hb
    exact ⟨k, s, offset_of_mem_marks hm, hk⟩
  · rintro ⟨k, s, rfl, hk⟩
    have hm : (s.toByte, k) ∈ marks text := mem_marks.mpr ⟨hk, inAlphabet_iff.mpr ⟨s, rfl⟩⟩
    exact ⟨_, List.mem_map.mpr ⟨_, hm, rfl⟩, offset_of_mem_marks hm⟩

theorem place_of_getElem? {text : Bytes} {i : Nat} {p : Position}
    (h : (filter text).positions[i]? = some p) :
    ∃ (k : Nat) (b : UInt8), p.offset = k ∧ (filter text).symbols[i]? = some b ∧
      text[k]? = some b ∧ p = after (text.take k) := by
  rw [positions_eq_marks, List.getElem?_map] at h
  obtain ⟨⟨b, k⟩, hm, rfl⟩ := Option.map_eq_some_iff.mp h
  have hmem := List.mem_of_getElem? hm
  refine ⟨k, b, offset_of_mem_marks hmem, ?_, (mem_marks.mp hmem).1, rfl⟩
  rw [symbols_eq_marks, List.getElem?_map, hm]
  rfl

theorem symbols_filter_render (text : Bytes) :
    (filter (filter text).render).symbols = (filter text).symbols := by
  rw [render, symbols_filter, symbols_filter, List.filter_filter]
  simp

theorem exists_parse_iff {text : Bytes} : (∃ p, parse text = .ok p) ↔
    Balanced ((filter text).symbols.filterMap Symbol.ofByte?) := by
  constructor
  · rintro ⟨p, hp⟩
    by_contra hnot
    obtain ⟨pos, detail, herror⟩ := parse_of_not_balanced hnot
    cases hp.symm.trans herror
  · intro h
    exact ⟨_, parse_of_balanced h⟩

/-- The filter loses no symbol and tells where each one is. The offsets rise and are those of the
bytes of the alphabet; every symbol is the byte at its offset, its line counts the newlines before it
and its column the bytes since the last of them. Written out and read again the symbols are the
same, and both texts can be parsed or neither. -/
theorem filter_tells_places (text : Bytes) :
    (filter text).positions.length = (filter text).symbols.length ∧
      (filter text).positions.Pairwise (fun p q => p.offset < q.offset) ∧
      (∀ n : Int, (∃ p ∈ (filter text).positions, p.offset = n) ↔
        ∃ (k : Nat) (s : Symbol), n = k ∧ text[k]? = some s.toByte) ∧
      (∀ (i : Nat) (p : Position), (filter text).positions[i]? = some p →
        ∃ (k : Nat) (b : UInt8), p.offset = k ∧ (filter text).symbols[i]? = some b ∧
          text[k]? = some b ∧ p.line = 1 + (text.take k).count 10 ∧
          p.col = 1 + (Position.lastLine (text.take k)).length) ∧
      (filter (filter text).render).symbols = (filter text).symbols ∧
      ((∃ p, parse text = .ok p) ↔ ∃ p, parse (filter text).render = .ok p) := by
  refine ⟨?_, positions_sorted text, exists_offset_iff text, ?_, symbols_filter_render text, ?_⟩
  · rw [positions_eq_marks, symbols_eq_marks, List.length_map, List.length_map]
  · intro i p hp
    obtain ⟨k, b, hoffset, hsymbol, hbyte, rfl⟩ := place_of_getElem? hp
    exact ⟨k, b, hoffset, hsymbol, hbyte, rfl, rfl⟩
  · rw [exists_parse_iff, exists_parse_iff, symbols_filter_render]

example : (filter [97, 98, 43, 10, 32, 32, 91, 120, 93]).positions =
    [⟨2, 1, 3⟩, ⟨6, 2, 3⟩, ⟨8, 2, 5⟩] := by decide

end Program
end TapeWasm
