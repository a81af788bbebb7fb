import PantumOpen.Scan.DitherField

/-! One filling loop in the place of two phases of Ulichney's method: without rounding, the largest
void of a pattern is the tightest cluster of its complement. -/

namespace PantumOpen.Scan
open Interaction Pick

variable {E : Type} [AddCommGroup E] [LinearOrder E] {k : Nat → Nat → E}
  {s : DitherState (DitherCell → E)}

@[irreducible] def largestVoid (k : Nat → Nat → E) (pattern : DitherCell → Bool) : Option DitherCell :=
  pick (fun c => pattern c == false)
    (fun i best => decide (convolution k pattern i < convolution k pattern best))
    (List.finRange ditherCells)

@[irreducible] def tightestCluster (k : Nat → Nat → E) (pattern : DitherCell → Bool) : Option DitherCell :=
  pick (fun c => pattern c == true)
    (fun i best => decide (convolution k pattern best < convolution k pattern i))
    (List.finRange ditherCells)

/-- `n` ranks from `i` on, by filling the largest void of the pattern; whether there always was one. -/
def fillVoids (k : Nat → Nat → E) :
    Nat → Nat → (DitherCell → Bool) → (DitherCell → Nat) → Bool × (DitherCell → Bool) × (DitherCell → Nat)
  | 0, _, pattern, rank => (true, pattern, rank)
  | n + 1, i, pattern, rank =>
    match largestVoid k pattern with
    | none => (false, pattern, rank)
    | some c => fillVoids k n (i + 1) (Function.update pattern c true) (Function.update rank c i)

/-- `n` ranks from `i` on, by taking the tightest cluster away from the complement. -/
def thinComplement (k : Nat → Nat → E) :
    Nat → Nat → (DitherCell → Bool) → (DitherCell → Nat) → Bool × (DitherCell → Nat)
  | 0, _, _, rank => (true, rank)
  | n + 1, i, complement, rank =>
    match tightestCluster k complement with
    | none => (false, rank)
    | some c =>
      thinComplement k n (i + 1) (Function.update complement c false) (Function.update rank c i)

/-- The ranks from `ones` on: voids are filled up to half density, from there on the complement is
thinned. -/
def threePhases (k : Nat → Nat → E) (ones : Nat) (proto : DitherCell → Bool) (rank : DitherCell → Nat) :
    Bool × (DitherCell → Nat) :=
  let half := ditherCells / 2
  let filled := fillVoids k (half - ones) ones proto rank
  let thinned := thinComplement k (ditherCells - max ones half) (max ones half)
    (fun c => !filled.2.1 c) filled.2.2
  (filled.1 && thinned.1, thinned.2)

theorem ditherExtreme_void (hs : s.Exact k) :
    ditherExtreme (exactField k) s false false = largestVoid k s.pattern := by
  unfold ditherExtreme largestVoid
  rw [← hs]
  rfl

theorem setCells_not (pattern : DitherCell → Bool) :
    setCells (fun c => !pattern c) = (setCells pattern)ᶜ := by
  ext c
  simp

omit [LinearOrder E] in
/-- The energies of a pattern and of its complement add up to the kernel everywhere. -/
theorem convolution_not (hk : SymmetricKernel k) (pattern : DitherCell → Bool) (i : DitherCell) :
    convolution k (fun c => !pattern c) i =
      (∑ u ∈ Finset.range ditherKernel, ∑ v ∈ Finset.range ditherKernel, k u v) -
        convolution k pattern i := by
  rw [convolution_eq_field, convolution_eq_field, setCells_not, field_compl (sum_weight hk)]

variable [IsOrderedAddMonoid E]

/-- The largest void is the tightest cluster of the complement, ties included. -/
theorem tightestCluster_not (hk : SymmetricKernel k) (pattern : DitherCell → Bool) :
    tightestCluster k (fun c => !pattern c) = largestVoid k pattern := by
  have hkind (c : DitherCell) : ((!pattern c) == true) = (pattern c == false) := by
    cases pattern c <;> rfl
  have horder (i best : DitherCell) :
      (convolution k (fun c => !pattern c) best < convolution k (fun c => !pattern c) i) ↔
        convolution k pattern i < convolution k pattern best := by
    rw [convolution_not hk, convolution_not hk, sub_lt_sub_iff_left]
  unfold tightestCluster largestVoid
  simp only [hkind, horder]

omit [IsOrderedAddMonoid E] in
theorem fillLoop_voids (hs : s.Exact k) (n i : Nat) (rank : DitherCell → Nat) :
    (fillLoop (exactField k) n i ⟨s, rank⟩).1 = (fillVoids k n i s.pattern rank).1 ∧
      (fillLoop (exactField k) n i ⟨s, rank⟩).2.state.pattern = (fillVoids k n i s.pattern rank).2.1 ∧
      (fillLoop (exactField k) n i ⟨s, rank⟩).2.rank = (fillVoids k n i s.pattern rank).2.2 ∧
      (fillLoop (exactField k) n i ⟨s, rank⟩).2.state.Exact k := by
  induction n generalizing i s rank with
  | zero => exact ⟨rfl, rfl, rfl, hs⟩
  | succ n ih =>
    have hfound := ditherExtreme_void hs
    rw [fillLoop, fillVoids, ← hfound]
    cases hc : ditherExtreme (exactField k) s false false with
    | none => exact ⟨rfl, rfl, rfl, hs⟩
    | some c =>
      have hclear : c ∉ setCells s.pattern := by
        rw [mem_setCells, ditherExtreme_some hc]
        exact Bool.false_ne_true
      exact ih (hs.set hclear) (i + 1) (Function.update rank c i)

theorem fillLoop_complement (hk : SymmetricKernel k) (hs : s.Exact k) (n i : Nat)
    (rank : DitherCell → Nat) :
    (fillLoop (exactField k) n i ⟨s, rank⟩).1 = (thinComplement k n i (fun c => !s.pattern c) rank).1 ∧
      (fillLoop (exactField k) n i ⟨s, rank⟩).2.rank =
        (thinComplement k n i (fun c => !s.pattern c) rank).2 := by
  induction n generalizing i s rank with
  | zero => exact ⟨rfl, rfl⟩
  | succ n ih =>
    have hfound := ditherExtreme_void hs
    rw [fillLoop, thinComplement, tightestCluster_not hk, ← hfound]
    cases hc : ditherExtreme (exactField k) s false false with
    | none => exact ⟨rfl, rfl⟩
    | some c =>
      have hclear : c ∉ setCells s.pattern := by
        rw [mem_setCells, ditherExtreme_some hc]
        exact Bool.false_ne_true
      have hrest : Function.update (fun c => !s.pattern c) c false =
          fun d => !(ditherToggle (exactField k) s c true).pattern d := by
        funext d
        unfold ditherToggle
        simp only [Function.update_apply]
        split <;> rfl
      dsimp only
      rw [hrest]
      exact ih (hs.set hclear) (i + 1) (Function.update rank c i)

/-- A filling loop in two parts. A pattern that is full stays so. -/
theorem fillLoop_add {Φ : Type} {F : EnergyField Φ} (n m i : Nat) (r : Ranking Φ) :
    fillLoop F (n + m) i r = ((fillLoop F n i r).1 && (fillLoop F m (i + n) (fillLoop F n i r).2).1,
      (fillLoop F m (i + n) (fillLoop F n i r).2).2) := by
  induction n generalizing i r with
  | zero =>
    rw [Nat.zero_add, Nat.add_zero, fillLoop]
    simp
  | succ n ih =>
    rw [Nat.succ_add, fillLoop, fillLoop]
    cases hc : ditherExtreme F r.state false false with
    | none =>
      have hfull : (fillLoop F m (i + (n + 1)) r).2 = r := by
        cases m with
        | zero => rw [fillLoop]
        | succ m => rw [fillLoop, hc]
      simp [hfull]
    | some c =>
      dsimp only
      rw [ih, show i + 1 + n = i + (n + 1) by omega]

omit [IsOrderedAddMonoid E] in
theorem restore_exact (k : Nat → Nat → E) (proto : DitherCell → Bool) :
    (restore (exactField k) proto).Exact k := by
  have hfold (l : List DitherCell) (s : DitherState (DitherCell → E)) (hl : l.Nodup)
      (hfree : ∀ c ∈ l, s.pattern c = false) (hs : s.Exact k) :
      (l.foldl (fun s i => if proto i then ditherToggle (exactField k) s i true else s) s).Exact k := by
    induction l generalizing s with
    | nil => exact hs
    | cons a l ih =>
      obtain ⟨hnew, hl⟩ := List.nodup_cons.mp hl
      rw [List.foldl_cons]
      split
      · refine ih _ hl (fun c hc => ?_) (hs.set (by simp [hfree a List.mem_cons_self]))
        have hne : c ≠ a := fun h => hnew (h ▸ hc)
        unfold ditherToggle
        simp only [Function.update_apply, hne, if_false]
        exact hfree c (List.mem_cons_of_mem a hc)
      · exact ih _ hl (fun c hc => hfree c (List.mem_cons_of_mem a hc)) hs
  exact hfold _ _ (List.nodup_finRange _) (fun _ _ => rfl) (exact_clear k)

/-- The filling loop gives the ranks of the three phases, cell for cell. -/
theorem fillLoop_threePhases (hk : SymmetricKernel k) (proto : DitherCell → Bool) (ones : Nat)
    (rank : DitherCell → Nat) :
    let fill := fillLoop (exactField k) (ditherCells - ones) ones ⟨restore (exactField k) proto, rank⟩
    (fill.1, fill.2.rank) = threePhases k ones proto rank := by
  have hsplit :
      ditherCells - ones = ditherCells / 2 - ones + (ditherCells - max ones (ditherCells / 2)) := by
    omega
  have hswitch : ones + (ditherCells / 2 - ones) = max ones (ditherCells / 2) := by omega
  have hexact := restore_exact k proto
  obtain ⟨hended, hpattern, hrank, hstill⟩ := fillLoop_voids hexact (ditherCells / 2 - ones) ones rank
  rw [restore_pattern] at hended hpattern hrank
  dsimp only
  rw [hsplit, fillLoop_add, hswitch]
  generalize fillLoop (exactField k) (ditherCells / 2 - ones) ones ⟨restore (exactField k) proto, rank⟩ = r
    at hended hpattern hrank hstill
  obtain ⟨hthinned, hlast⟩ := fillLoop_complement hk hstill (ditherCells - max ones (ditherCells / 2))
    (max ones (ditherCells / 2)) r.2.rank
  unfold threePhases
  dsimp only
  rw [hpattern, hrank] at hthinned hlast
  rw [← hended, ← hthinned, ← hlast, ← hrank]

theorem fillLoop_threePhases_pyramid :
    let fill := fillLoop (exactField pyramid) (ditherCells - 1) 1
      ⟨restore (exactField pyramid) fun c => decide (c.val = 5), fun _ => 0⟩
    (fill.1, fill.2.rank) = threePhases pyramid 1 (fun c => decide (c.val = 5)) fun _ => 0 :=
  fillLoop_threePhases pyramid_symmetric _ _ _

end PantumOpen.Scan
