import Mathlib

/-! Byte buffers that a program writes in place, read as functions from offsets. -/

/-- A block of memory: the byte at every offset. -/
abbrev Buffer := Nat → UInt8

namespace Buffer

def store (b : Buffer) (i : Nat) (v : UInt8) : Buffer := Function.update b i v

def memset (b : Buffer) (off : Nat) (v : UInt8) (n : Nat) : Buffer :=
  fun i => if off ≤ i ∧ i < off + n then v else b i

def memcpy (b : Buffer) (off : Nat) (src : Buffer) (n : Nat) : Buffer :=
  fun i => if off ≤ i ∧ i < off + n then src (i - off) else b i

def bytes (b : Buffer) (n : Nat) : List UInt8 := (List.range n).map b

/-- The bytes of a list; what lies past its end is zero. -/
def ofList (l : List UInt8) : Buffer := fun i => l.getD i 0

def shift (b : Buffer) (off : Nat) : Buffer := fun i => b (off + i)

/-- `body` for every index from `lo` on, `n` of them, in ascending order. -/
def forRange {α : Type} (lo : Nat) (body : Nat → α → α) : Nat → α → α
  | 0, a => a
  | n + 1, a => body (lo + n) (forRange lo body n a)

@[simp] theorem bytes_length (b : Buffer) (n : Nat) : (bytes b n).length = n := by
  simp [bytes]

theorem bytes_congr {b b' : Buffer} {n : Nat} (h : ∀ i, i < n → b i = b' i) :
    bytes b n = bytes b' n := by
  unfold bytes
  exact List.map_congr_left fun i hi => h i (List.mem_range.mp hi)

theorem store_apply (b : Buffer) (i j : Nat) (v : UInt8) :
    store b i v j = if j = i then v else b j := by
  unfold store
  rw [Function.update_apply]

theorem bytes_memset (b : Buffer) (v : UInt8) (n : Nat) :
    bytes (memset b 0 v n) n = List.replicate n v := by
  apply List.ext_getElem (by simp)
  intro i hi _
  simp only [bytes_length] at hi
  simp [bytes, memset, hi]

/-- The invariant rule of `forRange`. -/
theorem forRange_inv {α : Type} {P : Nat → α → Prop} {lo n : Nat} {body : Nat → α → α} {a : α}
    (h : P 0 a) (hstep : ∀ i a, i < n → P i a → P (i + 1) (body (lo + i) a)) :
    P n (forRange lo body n a) := by
  induction n with
  | zero => exact h
  | succ n ih =>
    exact hstep n _ (Nat.lt_succ_self n) (ih fun i a hi => hstep i a (Nat.lt_succ_of_lt hi))

theorem forRange_add {α : Type} (lo m n : Nat) (body : Nat → α → α) (a : α) :
    forRange lo body (m + n) a = forRange (lo + m) body n (forRange lo body m a) := by
  induction n with
  | zero => rfl
  | succ n ih => rw [← Nat.add_assoc, forRange, ih, forRange, Nat.add_assoc]

theorem forRange_congr {α : Type} {R : α → α → Prop} {body body' : Nat → α → α} {lo : Nat} (n : Nat)
    (h : ∀ i a a', lo ≤ i → i < lo + n → R a a' → R (body i a) (body' i a')) {a a' : α} (ha : R a a') :
    R (forRange lo body n a) (forRange lo body' n a') := by
  induction n with
  | zero => exact ha
  | succ n ih =>
    exact h (lo + n) _ _ (Nat.le_add_right _ _) (by omega)
      (ih fun i a a' hlo hhi => h i a a' hlo (by omega))

theorem forRange_store_apply {v : Nat → UInt8} {b : Buffer} (n j : Nat) :
    forRange 0 (fun i (d : Buffer) => d.store i (v i)) n b j = if j < n then v j else b j := by
  induction n with
  | zero => rfl
  | succ n ih =>
    rw [forRange, store_apply, ih, Nat.zero_add]
    split_ifs with h₁ h₂ h₃ <;> first | rfl | omega | rw [h₁]

end Buffer
