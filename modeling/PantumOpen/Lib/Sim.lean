import PantumOpen.Lib.Prog

/-! Two programs run side by side: from related states they end alike and in related states. -/

namespace Prog
variable {ε σ τ α β γ δ : Type}

def Alike (V : α → β → Prop) : Except ε α → Except ε β → Prop
  | .ok a, .ok b => V a b
  | .error e, .error e' => e' = e
  | _, _ => False

/-- From states related by `P` the programs end with outcomes that are alike, in states related by
`R`. -/
def Sim (P R : σ → τ → Prop) (V : α → β → Prop) (m : Prog ε σ α) (m' : Prog ε τ β) : Prop :=
  ∀ s t, P s t → Alike V (m s).1 (m' t).1 ∧ R (m s).2 (m' t).2

variable {P R : σ → τ → Prop} {V : α → β → Prop} {W : γ → δ → Prop}

theorem alike_eq {r r' : Except ε α} (h : Alike Eq r r') : r' = r := by
  match r, r', h with
  | .ok _, .ok _, h => exact congrArg _ h.symm
  | .error _, .error _, h => exact congrArg _ h

theorem alike_refl (r : Except ε α) : Alike Eq r r := by
  cases r <;> rfl

theorem sim_refl (m : Prog ε σ α) : Sim Eq Eq Eq m m := fun _ _ hs => hs ▸ ⟨alike_refl _, rfl⟩

theorem sim_pure {a : α} {b : β} (h : V a b) : Sim R R V (pure a : Prog ε σ α) (pure b) :=
  fun _ _ hs => ⟨h, hs⟩

theorem sim_fail (e : ε) : Sim R R V (fail e) (fail e) := fun _ _ hs => ⟨rfl, hs⟩

theorem sim_gets {f : σ → α} {g : τ → β} (h : ∀ s t, R s t → V (f s) (g t)) :
    Sim R R V (gets f : Prog ε σ α) (gets g) := fun s t hs => ⟨h s t hs, hs⟩

theorem sim_modify {f : σ → σ} {g : τ → τ} (h : ∀ s t, P s t → R (f s) (g t)) :
    Sim P R Eq (modify f : Prog ε σ Unit) (modify g) := fun s t hs => ⟨rfl, h s t hs⟩

theorem sim_modify_bind {Q : σ → τ → Prop} {f : σ → σ} {g : τ → τ} {k : Unit → Prog ε σ γ}
    {k' : Unit → Prog ε τ δ} (h : ∀ s t, P s t → Q (f s) (g t)) (hk : Sim Q R W (k ()) (k' ())) :
    Sim P R W (modify f >>= k) (modify g >>= k') := fun s t hs => hk (f s) (g t) (h s t hs)

theorem sim_bind {m : Prog ε σ α} {m' : Prog ε τ β} {f : α → Prog ε σ γ} {f' : β → Prog ε τ δ}
    (h : Sim P R V m m') (hf : ∀ a b, V a b → Sim R R W (f a) (f' b)) :
    Sim P R W (m >>= f) (m' >>= f') := by
  intro s t hs
  obtain ⟨hv, hr⟩ := h s t hs
  rcases hm : m s with ⟨_ | a, s'⟩ <;> rcases hm' : m' t with ⟨_ | b, t'⟩ <;>
    rw [hm, hm'] at hv hr
  · rw [bind_error hm, bind_error hm']
    exact ⟨hv, hr⟩
  · exact hv.elim
  · exact hv.elim
  · rw [bind_ok hm, bind_ok hm']
    exact hf a b hv s' t' hr

theorem sim_bind_eq {m : Prog ε σ α} {m' : Prog ε τ α} {f : α → Prog ε σ γ} {g : α → Prog ε τ δ}
    (h : Sim P R Eq m m') (hf : ∀ a, Sim R R W (f a) (g a)) : Sim P R W (m >>= f) (m' >>= g) :=
  sim_bind h fun a _ hab => hab ▸ hf a

theorem sim_read : Sim R R R (read : Prog ε σ σ) read := fun _ _ hs => ⟨hs, hs⟩

theorem sim_ite_iff {c c' : Prop} [Decidable c] [Decidable c'] (hc : c' ↔ c) {m n : Prog ε σ α}
    {m' n' : Prog ε τ β} (h : c → Sim P R V m m') (h' : ¬ c → Sim P R V n n') :
    Sim P R V (if c then m else n) (if c' then m' else n') := by
  by_cases h₁ : c
  · rw [if_pos h₁, if_pos (hc.mpr h₁)]
    exact h h₁
  · rw [if_neg h₁, if_neg fun h₂ => h₁ (hc.mp h₂)]
    exact h' h₁

theorem sim_ite {c : Prop} [Decidable c] {m n : Prog ε σ α} {m' n' : Prog ε τ β}
    (h : c → Sim P R V m m') (h' : ¬ c → Sim P R V n n') :
    Sim P R V (if c then m else n) (if c then m' else n') := sim_ite_iff Iff.rfl h h'

theorem sim_attempt {m : Prog ε σ α} {m' : Prog ε τ β} (h : Sim P R V m m') :
    Sim P R (Alike V) (attempt m) (attempt m') := fun s t hs => h s t hs

theorem sim_ignore {m : Prog ε σ α} {m' : Prog ε τ β} (h : Sim P R V m m') :
    Sim P R Eq (ignore m) (ignore m') := fun s t hs => ⟨rfl, (h s t hs).2⟩

theorem Sim.mono {Q Q' : σ → τ → Prop} {V' : α → β → Prop} {m : Prog ε σ α} {m' : Prog ε τ β}
    (h : Sim P R V m m') (hp : ∀ s t, Q s t → P s t) (hv : ∀ a b, V a b → V' a b)
    (hr : ∀ s t, R s t → Q' s t) : Sim Q Q' V' m m' := by
  intro s t hs
  obtain ⟨ha, hr'⟩ := h s t (hp s t hs)
  refine ⟨?_, hr _ _ hr'⟩
  match (m s).1, (m' t).1, ha with
  | .ok a, .ok b, ha => exact hv a b ha
  | .error _, .error _, ha => exact ha

/-- The same number of rounds side by side. -/
theorem sim_loop {body : α → Prog ε σ (α ⊕ γ)} {body' : β → Prog ε τ (β ⊕ δ)}
    {out : α → Prog ε σ γ} {out' : β → Prog ε τ δ} (hrp : ∀ s t, R s t → P s t)
    (hbody : ∀ a b, V a b → Sim P R (Sum.LiftRel V W) (body a) (body' b))
    (hout : ∀ a b, V a b → Sim P R W (out a) (out' b)) (n : Nat) {a : α} {b : β} (h : V a b) :
    Sim P R W (loop body out n a) (loop body' out' n b) := by
  induction n generalizing a b with
  | zero => exact hout a b h
  | succ n ih =>
    apply sim_bind (hbody a b h)
    intro r r' hr
    cases hr with
    | inl hr => exact (ih hr).mono hrp (fun _ _ => id) fun _ _ => id
    | inr hr => exact sim_pure hr

theorem sim_loop_eq {body : α → Prog ε σ (α ⊕ γ)} {body' : α → Prog ε τ (α ⊕ γ)}
    {out : α → Prog ε σ γ} {out' : α → Prog ε τ γ} (hrp : ∀ s t, R s t → P s t)
    (hbody : ∀ a, Sim P R Eq (body a) (body' a)) (hout : ∀ a, Sim P R Eq (out a) (out' a)) (n : Nat)
    (a : α) : Sim P R Eq (loop body out n a) (loop body' out' n a) :=
  sim_loop hrp (fun a _ hab => hab ▸ (hbody a).mono (fun _ _ => id)
    (fun r r' hr => hr ▸ by cases r <;> constructor <;> rfl) fun _ _ => id)
    (fun a _ hab => hab ▸ hout a) n rfl

/-- The first round brings the states together and the others keep them so. -/
theorem sim_loop_first {body : α → Prog ε σ (α ⊕ γ)} {body' : α → Prog ε τ (α ⊕ γ)}
    {out : α → Prog ε σ γ} {out' : α → Prog ε τ γ} {n : Nat} {a : α}
    (hfirst : Sim P R Eq (body a) (body' a)) (hbody : ∀ a, Sim R R Eq (body a) (body' a))
    (hout : ∀ a, Sim R R Eq (out a) (out' a)) :
    Sim P R Eq (loop body out (n + 1) a) (loop body' out' (n + 1) a) := by
  apply sim_bind_eq hfirst
  intro r
  match r with
  | .inl a' => exact sim_loop_eq (fun _ _ => id) hbody hout n a'
  | .inr b => exact sim_pure rfl

/-- The same for rounds that all bring the states together. -/
theorem sim_loop_enter {body : α → Prog ε σ (α ⊕ γ)} {body' : α → Prog ε τ (α ⊕ γ)}
    {out : α → Prog ε σ γ} {out' : α → Prog ε τ γ} (hrp : ∀ s t, R s t → P s t)
    (hbody : ∀ a, Sim P R Eq (body a) (body' a)) (hout : ∀ a, Sim R R Eq (out a) (out' a)) (n : Nat)
    (a : α) : Sim P R Eq (loop body out (n + 1) a) (loop body' out' (n + 1) a) :=
  sim_loop_first (hbody a) (fun a => (hbody a).mono hrp (fun _ _ => id) fun _ _ => id) hout

end Prog
