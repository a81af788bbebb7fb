import Mathlib

/-! Sets of cells under a symmetric interaction: the field a set gives rise to, the energy of its pairs,
and what moving one cell does to it. -/

namespace Interaction
variable {ι E : Type} [DecidableEq ι] [AddCommGroup E] {K : ι → ι → E} {s t : Finset ι} {a c h i : ι}

/-- What the cells of `s` add up to at `i`. -/
def field (K : ι → ι → E) (s : Finset ι) (i : ι) : E := ∑ c ∈ s, K c i

theorem field_insert (h : a ∉ s) (i : ι) : field K (insert a s) i = K a i + field K s i :=
  Finset.sum_insert h

theorem field_erase (h : a ∈ s) (i : ι) : field K (s.erase a) i = field K s i - K a i := by
  unfold field
  rw [← Finset.add_sum_erase s (fun c => K c i) h, add_sub_cancel_left]

theorem field_compl [Fintype ι] {S : E} (hS : ∀ i, ∑ c, K c i = S) (s : Finset ι) (i : ι) :
    field K sᶜ i = S - field K s i := by
  unfold field
  rw [← hS i, ← Finset.sum_compl_add_sum s, add_sub_cancel_right]

/-- The energy of the pairs of `s`. -/
def total (K : ι → ι → E) (s : Finset ι) : E := ∑ i ∈ s, field K (s.erase i) i

theorem total_insert (hK : ∀ i j, K i j = K j i) (ha : a ∉ s) :
    total K (insert a s) = total K s + (field K s a + field K s a) := by
  have hrest : ∑ i ∈ s, field K ((insert a s).erase i) i = ∑ i ∈ s, K a i + total K s := by
    unfold total
    rw [← Finset.sum_add_distrib]
    apply Finset.sum_congr rfl
    intro i hi
    have hne : a ≠ i := fun h => ha (h ▸ hi)
    rw [Finset.erase_insert_of_ne hne, field_insert fun h => ha (Finset.mem_of_mem_erase h)]
  have hsym : ∑ i ∈ s, K a i = field K s a := Finset.sum_congr rfl fun i _ => hK a i
  unfold total at hrest ⊢
  rw [Finset.sum_insert ha, Finset.erase_insert ha, hrest, hsym]
  abel

variable [LinearOrder E]

/-- The energy of a set, and among sets of one energy the places of its cells. -/
def level (K : ι → ι → E) (pos : ι → Nat) (s : Finset ι) : E ×ₗ Nat :=
  toLex (total K s, ∑ i ∈ s, pos i)

theorem level_move [IsOrderedAddMonoid E] (hK : ∀ i j, K i j = K j i) (pos : ι → Nat) (hc : c ∉ t)
    (hh : h ∉ t)
    (hlow : field K t h < field K t c ∨ (field K t h = field K t c ∧ pos h < pos c)) :
    level K pos (insert h t) < level K pos (insert c t) := by
  unfold level
  rw [Prod.Lex.toLex_lt_toLex, total_insert hK hc, total_insert hK hh]
  rcases hlow with hlt | ⟨heq, hlt⟩
  · exact .inl (add_lt_add_right (add_lt_add hlt hlt) _)
  · refine .inr ⟨by rw [heq], ?_⟩
    rw [Finset.sum_insert hh, Finset.sum_insert hc]
    exact Nat.add_lt_add_right hlt _

theorem level_wellFounded [Fintype ι] (K : ι → ι → E) (pos : ι → Nat) :
    WellFounded fun s t : Finset ι => level K pos s < level K pos t := by
  have htrans : IsTrans (Finset ι) fun s t => level K pos s < level K pos t :=
    ⟨fun _ _ _ h h' => h.trans h'⟩
  have hirrefl : Std.Irrefl fun s t : Finset ι => level K pos s < level K pos t :=
    ⟨fun _ => lt_irrefl _⟩
  exact Finite.wellFounded_of_trans_of_irrefl _

end Interaction
