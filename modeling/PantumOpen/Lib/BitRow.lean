import PantumOpen.Lib.Buffer

/-! Rows of bits packed into bytes, the most significant bit first. -/

namespace Buffer

/-- Bit `x` of a row, counted from the most significant bit of its first byte. -/
def bit (b : Buffer) (x : Nat) : Bool := (b (x / 8)).toNat.testBit (7 - x % 8)

def setBit (b : Buffer) (i : Nat) : Buffer :=
  b.store (i / 8) (b (i / 8) ||| 0x80 >>> UInt8.ofNat (i % 8))

theorem topBit_shifted (k j : Fin 8) :
    (0x80 >>> UInt8.ofNat k.val : UInt8).toNat.testBit (7 - j.val) = decide (j = k) := by
  revert k j
  decide

theorem bit_setBit (b : Buffer) (i x : Nat) : (b.setBit i).bit x = (b.bit x || decide (x = i)) := by
  unfold bit setBit
  rw [store_apply]
  by_cases hbyte : x / 8 = i / 8
  · have htop := topBit_shifted ⟨i % 8, Nat.mod_lt _ (by decide)⟩ ⟨x % 8, Nat.mod_lt _ (by decide)⟩
    have hsame : x % 8 = i % 8 ↔ x = i := by omega
    rw [if_pos hbyte, UInt8.toNat_or, Nat.testBit_or, htop, hbyte]
    simp only [Fin.mk.injEq, hsame]
  · have hne : x ≠ i := fun h => hbyte (congrArg (· / 8) h)
    rw [if_neg hbyte, decide_eq_false hne, Bool.or_false]

theorem bit_forRange_setBit (b : Buffer) (p : Nat → Bool) (lo n x : Nat) :
    (forRange lo (fun i (d : Buffer) => if p i then d.setBit i else d) n b).bit x =
      (b.bit x || decide (lo ≤ x ∧ x < lo + n) && p x) := by
  induction n with
  | zero =>
    have hno : ¬ (lo ≤ x ∧ x < lo + 0) := by omega
    rw [decide_eq_false hno, Bool.false_and, Bool.or_false]
    rfl
  | succ n ih =>
    rw [forRange]
    by_cases hx : x = lo + n
    · have hin : lo ≤ x ∧ x < lo + (n + 1) := by omega
      have hout : ¬ (lo ≤ x ∧ x < lo + n) := by omega
      rw [decide_eq_false hout, Bool.false_and, Bool.or_false] at ih
      rw [decide_eq_true hin, Bool.true_and, ← hx]
      cases hp : p x
      · rw [if_neg Bool.false_ne_true, ih, Bool.or_false]
      · rw [if_pos rfl, bit_setBit, ih, decide_eq_true rfl]
    · have hsame : (lo ≤ x ∧ x < lo + (n + 1)) ↔ lo ≤ x ∧ x < lo + n := by omega
      rw [decide_eq_decide.mpr hsame, ← ih]
      split
      · rw [bit_setBit, decide_eq_false hx, Bool.or_false]
      · rfl

theorem bit_of_zero {b : Buffer} {x : Nat} (h : b (x / 8) = 0) : b.bit x = false := by
  unfold bit
  rw [h]
  exact Nat.zero_testBit _

theorem ofList_bytes (b : Buffer) {n i : Nat} (h : i < n) : ofList (b.bytes n) i = b i := by
  simp [ofList, bytes, h]

theorem bit_ofList_bytes (b : Buffer) {n x : Nat} (h : x < 8 * n) :
    (ofList (b.bytes n)).bit x = b.bit x := by
  unfold bit
  rw [ofList_bytes b (by omega)]

end Buffer
