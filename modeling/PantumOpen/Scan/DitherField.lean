import PantumOpen.Lib.Interaction
import PantumOpen.Scan.Dither

/-! The energy field without rounding: what the code keeps up to date is the pattern convolved with the
kernel on the torus. -/

namespace PantumOpen.Scan
open Buffer Interaction

variable {E : Type} [AddCommGroup E] {k : Nat → Nat → E}

def exactArith (E : Type) [AddCommGroup E] [LinearOrder E] : Arith E :=
  ⟨0, fun a b => a + b, fun a b => a - b, fun a b => decide (a < b)⟩

/-- The kernel around its middle, and the same turned half around. -/
def SymmetricKernel (k : Nat → Nat → E) : Prop :=
  ∀ u < ditherKernel, ∀ v < ditherKernel, k (ditherKernel - 1 - u) (ditherKernel - 1 - v) = k u v

/-- A kernel that falls off from its middle to nothing at the rim. -/
def pyramid (u v : Nat) : Int :=
  (min u (ditherKernel - 1 - u) : Nat) * (min v (ditherKernel - 1 - v) : Nat)

theorem pyramid_symmetric : SymmetricKernel pyramid := by
  intro u hu v hv
  have hturn (w : Nat) (hw : w < ditherKernel) : ditherKernel - 1 - (ditherKernel - 1 - w) = w := by
    omega
  unfold pyramid
  rw [hturn u hu, hturn v hv, min_comm u, min_comm v]

/-- The pattern convolved with the kernel: what lies `(u, v)` before a cell counts with entry
`(u, v)`, both taken from the middle. -/
def convolution (k : Nat → Nat → E) (pattern : DitherCell → Bool) (i : DitherCell) : E :=
  ∑ u ∈ Finset.range ditherKernel, ∑ v ∈ Finset.range ditherKernel,
    if pattern (torusCell i (ditherKernel - 1 - u) (ditherKernel - 1 - v)) then k u v else 0

def weight (k : Nat → Nat → E) (cell i : DitherCell) : E :=
  ∑ u ∈ Finset.range ditherKernel, ∑ v ∈ Finset.range ditherKernel,
    if torusCell cell u v = i then k u v else 0

theorem wrap_back {c u : Nat} (hc : c < ditherSize) (hu : u < ditherKernel) :
    wrap (wrap c u) (ditherKernel - 1 - u) = c := by
  unfold wrap ditherKernel ditherRadius ditherSize at *
  omega

theorem torusCell_row (cell : DitherCell) (u v : Nat) :
    (torusCell cell u v).val / ditherSize = wrap (cell.val / ditherSize) u := by
  have hcol := wrap_lt (cell.val % ditherSize) v
  have hpos : 0 < ditherSize := by decide
  change (wrap (cell.val / ditherSize) u * ditherSize + wrap (cell.val % ditherSize) v) / ditherSize = _
  rw [Nat.mul_comm, Nat.mul_add_div hpos, Nat.div_eq_of_lt hcol, Nat.add_zero]

theorem torusCell_col (cell : DitherCell) (u v : Nat) :
    (torusCell cell u v).val % ditherSize = wrap (cell.val % ditherSize) v := by
  change (wrap (cell.val / ditherSize) u * ditherSize + wrap (cell.val % ditherSize) v) % ditherSize = _
  rw [Nat.mul_add_mod_self_right, Nat.mod_eq_of_lt (wrap_lt _ _)]

theorem torusCell_back (cell : DitherCell) {u v : Nat} (hu : u < ditherKernel) (hv : v < ditherKernel) :
    torusCell (torusCell cell u v) (ditherKernel - 1 - u) (ditherKernel - 1 - v) = cell := by
  have hrow : cell.val / ditherSize < ditherSize := Nat.div_lt_of_lt_mul cell.isLt
  have hcol : cell.val % ditherSize < ditherSize := Nat.mod_lt _ (by decide)
  apply Fin.ext
  change wrap ((torusCell cell u v).val / ditherSize) (ditherKernel - 1 - u) * ditherSize +
    wrap ((torusCell cell u v).val % ditherSize) (ditherKernel - 1 - v) = cell.val
  rw [torusCell_row, torusCell_col, wrap_back hrow hu, wrap_back hcol hv, Nat.div_add_mod']

theorem torusCell_eq_iff {c i : DitherCell} {u v : Nat} (hu : u < ditherKernel) (hv : v < ditherKernel) :
    torusCell c u v = i ↔ torusCell i (ditherKernel - 1 - u) (ditherKernel - 1 - v) = c := by
  constructor
  · rintro rfl
    exact torusCell_back c hu hv
  · rintro rfl
    have hback := torusCell_back i (show ditherKernel - 1 - u < ditherKernel by omega)
      (show ditherKernel - 1 - v < ditherKernel by omega)
    rwa [show ditherKernel - 1 - (ditherKernel - 1 - u) = u by omega,
      show ditherKernel - 1 - (ditherKernel - 1 - v) = v by omega] at hback

theorem weight_symm (hk : SymmetricKernel k) (c i : DitherCell) : weight k c i = weight k i c := by
  unfold weight
  rw [← Finset.sum_range_reflect]
  apply Finset.sum_congr rfl
  intro u hu
  rw [← Finset.sum_range_reflect]
  apply Finset.sum_congr rfl
  intro v hv
  have hu := Finset.mem_range.mp hu
  have hv := Finset.mem_range.mp hv
  rw [hk u hu v hv]
  simp only [torusCell_eq_iff hu hv]

theorem sum_weight (hk : SymmetricKernel k) (i : DitherCell) : ∑ c, weight k c i =
    ∑ u ∈ Finset.range ditherKernel, ∑ v ∈ Finset.range ditherKernel, k u v := by
  have hsym : ∑ c, weight k c i = ∑ c, weight k i c :=
    Finset.sum_congr rfl fun c _ => weight_symm hk c i
  rw [hsym]
  unfold weight
  rw [Finset.sum_comm]
  apply Finset.sum_congr rfl
  intro u _
  rw [Finset.sum_comm]
  apply Finset.sum_congr rfl
  intro v _
  rw [Finset.sum_ite_eq, if_pos (Finset.mem_univ _)]

theorem convolution_eq_field (k : Nat → Nat → E) (pattern : DitherCell → Bool) :
    convolution k pattern = field (weight k) (setCells pattern) := by
  funext i
  symm
  unfold convolution field weight
  rw [Finset.sum_comm]
  apply Finset.sum_congr rfl
  intro u hu
  rw [Finset.sum_comm]
  apply Finset.sum_congr rfl
  intro v hv
  simp only [torusCell_eq_iff (Finset.mem_range.mp hu) (Finset.mem_range.mp hv)]
  rw [Finset.sum_ite_eq]
  simp only [mem_setCells]

theorem forRange_scatter {ι : Type} [DecidableEq ι] (t : Nat → ι) (x : Nat → E) (n : Nat) (e : ι → E)
    (i : ι) : forRange 0 (fun v (e : ι → E) => Function.update e (t v) (e (t v) + x v)) n e i =
      e i + ∑ v ∈ Finset.range n, if t v = i then x v else 0 := by
  induction n with
  | zero => rw [Finset.range_zero, Finset.sum_empty, add_zero]; rfl
  | succ n ih =>
    rw [forRange, Finset.sum_range_succ, ← add_assoc, ← ih, Nat.zero_add, Function.update_apply]
    by_cases h : i = t n
    · rw [if_pos h, if_pos h.symm, h]
    · rw [if_neg h, if_neg (Ne.symm h), add_zero]

def DitherState.Exact (k : Nat → Nat → E) (s : DitherState (DitherCell → E)) : Prop :=
  s.energy = convolution k s.pattern

variable {s : DitherState (DitherCell → E)} {c : DitherCell}

theorem DitherState.Exact.field (h : s.Exact k) : s.energy = field (weight k) (setCells s.pattern) :=
  h.trans (convolution_eq_field k s.pattern)

variable [LinearOrder E]

/-- The field of the code, without rounding. -/
def exactField (k : Nat → Nat → E) : EnergyField (DitherCell → E) := (exactArith E).energyField k

theorem exactField_fold (k : Nat → Nat → E) (cell : DitherCell) (set : Bool) (e : DitherCell → E)
    (i : DitherCell) : (exactField k).fold cell set e i =
      e i + if set then weight k cell i else -weight k cell i := by
  let x (u v : Nat) : E := if set then k u v else -k u v
  have hcell (u v : Nat) (e : DitherCell → E) :
      (if set then (exactArith E).add (e (torusCell cell u v)) (k u v)
        else (exactArith E).sub (e (torusCell cell u v)) (k u v)) = e (torusCell cell u v) + x u v := by
    cases set
    · exact sub_eq_add_neg _ _
    · rfl
  -- by induction on the rows of the kernel, each of which scatters its own cells
  have hrow (n : Nat) : forRange 0 (fun u energy => forRange 0 (fun v (energy : DitherCell → E) =>
      Function.update energy (torusCell cell u v) (energy (torusCell cell u v) + x u v))
      ditherKernel energy) n e i = e i + ∑ u ∈ Finset.range n, ∑ v ∈ Finset.range ditherKernel,
        if torusCell cell u v = i then x u v else 0 := by
    induction n with
    | zero => rw [Finset.range_zero, Finset.sum_empty, add_zero]; rfl
    | succ n ih =>
      rw [forRange, forRange_scatter, ih, Finset.sum_range_succ, Nat.zero_add, add_assoc]
  have hfold : (exactField k).fold cell set e i = e i + ∑ u ∈ Finset.range ditherKernel,
      ∑ v ∈ Finset.range ditherKernel, if torusCell cell u v = i then x u v else 0 := by
    rw [← hrow]
    unfold exactField Arith.energyField
    simp only [hcell]
  rw [hfold]
  unfold weight
  cases set
  · simp only [x, Bool.false_eq_true, if_false, ← Finset.sum_neg_distrib]
    congr 1
    refine Finset.sum_congr rfl fun u _ => Finset.sum_congr rfl ?_
    intro v _
    split
    · rfl
    · exact neg_zero.symm
  · rfl

theorem exact_clear (k : Nat → Nat → E) : (DitherState.clear (exactField k)).Exact k := by
  unfold DitherState.Exact
  rw [convolution_eq_field, setCells_empty]
  funext i
  exact Finset.sum_empty.symm

theorem DitherState.Exact.set (h : s.Exact k) (hc : c ∉ setCells s.pattern) :
    (ditherToggle (exactField k) s c true).Exact k := by
  unfold DitherState.Exact
  rw [convolution_eq_field, setCells_toggle_set]
  funext i
  rw [field_insert hc, ← h.field, add_comm]
  exact exactField_fold k c true s.energy i

theorem DitherState.Exact.unset (h : s.Exact k) (hc : c ∈ setCells s.pattern) :
    (ditherToggle (exactField k) s c false).Exact k := by
  unfold DitherState.Exact
  rw [convolution_eq_field, setCells_toggle_clear]
  funext i
  rw [field_erase hc, ← h.field, sub_eq_add_neg]
  exact exactField_fold k c false s.energy i

end PantumOpen.Scan
