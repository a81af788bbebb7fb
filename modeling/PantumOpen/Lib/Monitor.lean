import Mathlib

/-! Monitors: partial state machines that follow a log and stop at the first entry they do not
allow. -/

namespace Monitor

variable {P ι : Type} {next : P → ι → Option P} {p q : P} {a : ι} {l l' : List ι}

/-- Where the monitor stands behind the log `l`; `none` when it does not allow it. -/
def follow (next : P → ι → Option P) (p : P) (l : List ι) : Option P := l.foldlM next p

@[simp] theorem follow_nil (next : P → ι → Option P) (p : P) : follow next p [] = some p := rfl

theorem follow_append (next : P → ι → Option P) (p : P) (l l' : List ι) :
    follow next p (l ++ l') = (follow next p l).bind fun q => follow next q l' := by
  unfold follow
  exact List.foldlM_append

theorem follow_snoc (h : follow next p l = some q) (a : ι) :
    follow next p (l ++ [a]) = next q a := by
  rw [follow_append, h, Option.bind_some]
  exact bind_pure (next q a)

theorem follow_split (h : follow next p (l ++ a :: l') = some q) :
    ∃ r t, follow next p l = some r ∧ next r a = some t ∧ follow next t l' = some q := by
  rw [follow_append] at h
  obtain ⟨r, hr, h⟩ := Option.bind_eq_some_iff.mp h
  unfold follow at h
  rw [List.foldlM_cons] at h
  obtain ⟨t, ht, h⟩ := Option.bind_eq_some_iff.mp h
  exact ⟨r, t, hr, ht, h⟩

theorem follow_last (h : follow next p l = some q) (hne : q ≠ p) :
    ∃ l' a r, l = l' ++ [a] ∧ follow next p l' = some r ∧ next r a = some q := by
  rcases List.eq_nil_or_concat l with rfl | ⟨l', a, rfl⟩
  · rw [follow_nil] at h
    exact absurd (Option.some.inj h).symm hne
  · rw [List.concat_eq_append] at h ⊢
    obtain ⟨r, t, hr, ht, hq⟩ := follow_split h
    rw [follow_nil] at hq
    rw [Option.some.inj hq] at ht
    exact ⟨l', a, r, rfl, hr, ht⟩

end Monitor
