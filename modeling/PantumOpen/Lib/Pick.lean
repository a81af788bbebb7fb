import Mathlib

/-! The element a scan of a list ends with, when each candidate is compared with the best one so far. -/

namespace Pick
variable {ι : Type}

def better (p : ι → Bool) (beats : ι → ι → Bool) (best : Option ι) (i : ι) : Option ι :=
  if p i then
    match best with
    | none => some i
    | some b => if beats i b then some i else some b
  else best

/-- A scan for the best of the elements with `p`; whoever comes later has to beat the one before. -/
def pick (p : ι → Bool) (beats : ι → ι → Bool) (l : List ι) : Option ι := l.foldl (better p beats) none

variable {p : ι → Bool} {beats : ι → ι → Bool} {l : List ι}

theorem pick_concat (p : ι → Bool) (beats : ι → ι → Bool) (l : List ι) (i : ι) :
    pick p beats (l ++ [i]) = better p beats (pick p beats l) i := by
  unfold pick
  rw [List.foldl_append]
  rfl

theorem pick_some {c : ι} (h : pick p beats l = some c) : c ∈ l ∧ p c = true := by
  induction l using List.reverseRecOn generalizing c with
  | nil => cases h
  | append_singleton l i ih =>
    rw [pick_concat] at h
    unfold better at h
    have hold (h : pick p beats l = some c) : c ∈ l ++ [i] ∧ p c = true :=
      ⟨List.mem_append_left _ (ih h).1, (ih h).2⟩
    split at h
    · rename_i hi
      have hnew (h : some i = some c) : c ∈ l ++ [i] ∧ p c = true := by
        cases h
        exact ⟨List.mem_append_right _ List.mem_cons_self, hi⟩
      split at h
      · exact hnew h
      · rename_i b hb
        split at h
        · exact hnew h
        · exact hold (hb.trans h)
    · exact hold h

theorem pick_isSome (h : ∃ i ∈ l, p i = true) : ∃ c, pick p beats l = some c := by
  induction l using List.reverseRecOn with
  | nil =>
    obtain ⟨_, hi, -⟩ := h
    cases hi
  | append_singleton l i ih =>
    rw [pick_concat]
    unfold better
    obtain ⟨j, hj, hp⟩ := h
    split
    · split
      · exact ⟨i, rfl⟩
      · split
        · exact ⟨i, rfl⟩
        · exact ⟨_, rfl⟩
    · rename_i hi
      rcases List.mem_append.mp hj with hj | hj
      · exact ih ⟨j, hj, hp⟩
      · rw [List.mem_singleton.mp hj] at hp
        exact absurd hp hi

theorem pick_head {i : ι} (hi : p i = true) (h : ∀ a b, beats a b = false) :
    pick p beats (i :: l) = some i := by
  have hkeep (l : List ι) : l.foldl (better p beats) (some i) = some i := by
    induction l with
    | nil => rfl
    | cons a l ih =>
      have hstep : better p beats (some i) a = some i := by simp [better, h]
      rw [List.foldl_cons, hstep, ih]
  have hfirst : better p beats none i = some i := by simp [better, hi]
  unfold pick
  rw [List.foldl_cons, hfirst, hkeep]

/-- A scan for the least key in ascending order ends with the first of the elements that have it. -/
theorem pick_least [LinearOrder ι] {κ : Type} [LinearOrder κ] (key : ι → κ) (hl : l.Pairwise (· < ·))
    {c : ι} (h : pick p (fun a b => decide (key a < key b)) l = some c) {i : ι} (hi : i ∈ l)
    (hp : p i = true) : key c < key i ∨ (key c = key i ∧ c ≤ i) := by
  -- The scan goes left to right, so the last element is the one that is compared last.
  induction l using List.reverseRecOn generalizing c i with
  | nil => cases hi
  | append_singleton l a ih =>
    obtain ⟨hsorted, -, hlast⟩ := List.pairwise_append.mp hl
    rw [pick_concat] at h
    unfold better at h
    by_cases ha : p a = true
    · rw [if_pos ha] at h
      cases hbest : pick p (fun a b => decide (key a < key b)) l with
      | none =>
        rw [hbest] at h
        cases h
        rcases List.mem_append.mp hi with hi | hi
        · have hsome : ∃ b, pick p (fun a b => decide (key a < key b)) l = some b :=
            pick_isSome ⟨i, hi, hp⟩
          rw [hbest] at hsome
          obtain ⟨b, hb⟩ := hsome
          cases hb
        · rw [List.mem_singleton.mp hi]
          exact .inr ⟨rfl, le_rfl⟩
      | some b =>
        rw [hbest] at h
        have hb (j : ι) (hj : j ∈ l) (hpj : p j = true) := ih hsorted hbest hj hpj
        by_cases hlt : key a < key b
        · simp only [hlt, decide_true, if_true, Option.some.injEq] at h
          subst h
          rcases List.mem_append.mp hi with hi | hi
          · rcases hb i hi hp with hkey | ⟨hkey, -⟩
            · exact .inl (hlt.trans hkey)
            · exact .inl (hkey ▸ hlt)
          · rw [List.mem_singleton.mp hi]
            exact .inr ⟨rfl, le_rfl⟩
        · simp only [hlt, decide_false, Bool.false_eq_true, if_false, Option.some.injEq] at h
          subst h
          rcases List.mem_append.mp hi with hi | hi
          · exact hb i hi hp
          · rw [List.mem_singleton.mp hi]
            rcases lt_or_eq_of_le (not_lt.mp hlt) with hkey | hkey
            · exact .inl hkey
            · exact .inr ⟨hkey, (hlast b (pick_some hbest).1 a List.mem_cons_self).le⟩
    · rw [if_neg ha] at h
      rcases List.mem_append.mp hi with hi | hi
      · exact ih hsorted h hi hp
      · rw [List.mem_singleton.mp hi] at hp
        exact absurd hp ha

end Pick
