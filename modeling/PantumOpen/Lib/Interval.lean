import Mathlib

/-! The concatenation of one list per index of an interval. -/

/-- `f lo ++ f (lo + 1) ++ … ++ f (hi - 1)`. -/
def concatRange {α : Type} (f : Nat → List α) (lo hi : Nat) : List α :=
  (List.range' lo (hi - lo)).flatMap f

section
variable {α : Type} {f g : Nat → List α} {lo mid hi : Nat}

@[simp] theorem concatRange_self (f : Nat → List α) (lo : Nat) : concatRange f lo lo = [] := by
  simp [concatRange]

theorem concatRange_append (h : lo ≤ mid) (h' : mid ≤ hi) :
    concatRange f lo mid ++ concatRange f mid hi = concatRange f lo hi := by
  unfold concatRange
  rw [← List.flatMap_append]
  congr 1
  have hs : hi - lo = (mid - lo) + (hi - mid) := by omega
  have hm : mid = lo + 1 * (mid - lo) := by omega
  rw [hs, ← List.range'_append, ← hm]

theorem concatRange_succ (f : Nat → List α) (lo : Nat) : concatRange f lo (lo + 1) = f lo := by
  simp [concatRange]

theorem concatRange_congr (h : ∀ r, lo ≤ r → r < hi → f r = g r) :
    concatRange f lo hi = concatRange g lo hi := by
  unfold concatRange
  refine List.flatMap_congr fun r hr => h r ?_ ?_ <;> simp at hr <;> omega

theorem concatRange_length {n : Nat} (h : ∀ r, lo ≤ r → r < hi → (f r).length = n) :
    (concatRange f lo hi).length = (hi - lo) * n := by
  have hmap : (List.range' lo (hi - lo)).map (fun r => (f r).length) =
      (List.range' lo (hi - lo)).map (fun _ => n) := by
    refine List.map_congr_left fun r hr => h r ?_ ?_ <;> simp at hr <;> omega
  unfold concatRange
  rw [List.length_flatMap, hmap]
  simp

theorem concatRange_piece {n r : Nat} (h : ∀ r < hi, (f r).length = n) (hr : r < hi) :
    ((concatRange f 0 hi).drop (r * n)).take n = f r := by
  have hlen : (concatRange f 0 r).length = r * n := by
    rw [concatRange_length fun i _ hi' => h i (hi'.trans hr), Nat.sub_zero]
  rw [← concatRange_append (Nat.zero_le r) hr.le, List.drop_left' hlen,
    ← concatRange_append (Nat.le_succ r) hr, concatRange_succ, List.take_left' (h r hr)]

end
