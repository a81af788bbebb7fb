import PantumOpen.Print.Halftone

/-! Codes packed into bytes, the first in the highest bits, and what `halftone_row` leaves in the
bitmap. -/

namespace PantumOpen.Print
open Buffer

/-- The codes of one byte of the bitmap, shifted in one after the other. -/
def packed (depth : Nat) (code : Nat → Nat) : Nat :=
  forRange 0 (fun i acc => acc <<< depth ||| code i) (8 / depth) 0

def packedByte (depth : Nat) (code : Nat → Nat) (j : Nat) : UInt8 :=
  UInt8.ofNat (packed depth fun i => code (j * (8 / depth) + i))

theorem packed_congr {depth : Nat} {code code' : Nat → Nat} (h : ∀ i < 8 / depth, code i = code' i) :
    packed depth code = packed depth code' := by
  unfold packed
  refine forRange_congr (R := Eq) _ (fun i a a' _ hi ha => ?_) rfl
  rw [ha, h i (by omega)]

theorem packedByte_congr {depth : Nat} {code code' : Nat → Nat} {j : Nat}
    (h : ∀ x, j * (8 / depth) ≤ x → x < (j + 1) * (8 / depth) → code x = code' x) :
    packedByte depth code j = packedByte depth code' j := by
  unfold packedByte
  rw [packed_congr fun i hi => h _ (Nat.le_add_right _ _) (by rw [Nat.succ_mul]; omega)]

def Depth (depth : Nat) : Prop := depth = 1 ∨ depth = 2

theorem push_byte {depth : Nat} (hdepth : Depth depth) (code : Nat → Nat) (lo : Nat) (out : Buffer)
    (pos : Nat) :
    forRange lo (fun x (p : Packer) => p.push depth (code x)) (8 / depth) ⟨out, pos, 0, 8⟩ =
      ⟨out.store pos (UInt8.ofNat (packed depth fun i => code (lo + i))), pos + 1, 0, 8⟩ := by
  rcases hdepth with rfl | rfl <;>
    simp [forRange, Packer.push, packed, Nat.shiftLeft_or_distrib, ← Nat.shiftLeft_add]

theorem push_bytes {depth : Nat} (hdepth : Depth depth) (code : Nat → Nat) (out : Buffer)
    (off n : Nat) :
    forRange 0 (fun x (p : Packer) => p.push depth (code x)) (n * (8 / depth)) ⟨out, off, 0, 8⟩ =
      ⟨forRange 0 (fun j (d : Buffer) => d.store (off + j) (packedByte depth code j)) n out,
        off + n, 0, 8⟩ := by
  induction n with
  | zero =>
    rw [Nat.zero_mul]
    rfl
  | succ n ih =>
    rw [Nat.succ_mul, forRange_add, ih, push_byte hdepth, Nat.zero_add, forRange, Nat.zero_add]
    rfl

theorem forRange_fill (v : Nat → UInt8) (b : Buffer) (off n i : Nat) :
    forRange 0 (fun j (d : Buffer) => d.store (off + j) (v j)) n b i =
      if off ≤ i ∧ i < off + n then v (i - off) else b i := by
  induction n with
  | zero =>
    have hno : ¬ (off ≤ i ∧ i < off + 0) := by omega
    rw [if_neg hno]
    rfl
  | succ n ih =>
    rw [forRange, store_apply, ih, Nat.zero_add]
    by_cases hi : i = off + n
    · have hin : off ≤ i ∧ i < off + (n + 1) := by omega
      rw [if_pos hi, if_pos hin, hi, Nat.add_sub_cancel_left]
    · have hsame : (off ≤ i ∧ i < off + (n + 1)) ↔ off ≤ i ∧ i < off + n := by omega
      rw [if_neg hi]
      simp only [hsame]

theorem halftoneRow_apply {depth : Nat} (hdepth : Depth depth) (out : Buffer) (off : Nat)
    (gray : Buffer) {width n : Nat} (hwidth : width = n * (8 / depth)) (y : Nat) (negative : Bool)
    (i : Nat) :
    halftoneRow out off gray width y depth negative i =
      if off ≤ i ∧ i < off + n then
        packedByte depth (fun x => dotCode depth negative (gray x) (threshold y x)) (i - off)
      else out i := by
  unfold halftoneRow
  rw [hwidth, push_bytes hdepth fun x => dotCode depth negative (gray x) (threshold y x)]
  exact forRange_fill _ _ _ _ _

end PantumOpen.Print
