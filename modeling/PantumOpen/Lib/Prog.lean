import Mathlib

/-! Imperative functions that return a value or an error and leave a state, with the rules
of their weakest preconditions. Nothing here depends on what the state is. -/

/-- A function over the state `σ`: a value or an error, and the state it leaves behind.
An error keeps the state reached so far, as a C function that returns early does. -/
def Prog (ε σ α : Type) := σ → Except ε α × σ

structure Lens (σ τ : Type) where
  get : σ → τ
  set : τ → σ → σ
  get_set : ∀ t s, get (set t s) = t
  set_get : ∀ s, set (get s) s = s
  set_set : ∀ t t' s, set t (set t' s) = set t s

namespace Prog
variable {ε σ τ α β γ : Type}

instance : Monad (Prog ε σ) where
  pure a := fun s => (.ok a, s)
  bind m f := fun s =>
    match m s with
    | (.ok a, s') => f a s'
    | (.error e, s') => (.error e, s')

def fail (e : ε) : Prog ε σ α := fun s => (.error e, s)

def read : Prog ε σ σ := fun s => (.ok s, s)

def gets (f : σ → α) : Prog ε σ α := fun s => (.ok (f s), s)

def modify (f : σ → σ) : Prog ε σ Unit := fun s => (.ok (), f s)

def attempt (m : Prog ε σ α) : Prog ε σ (Except ε α) := fun s => (.ok (m s).1, (m s).2)

def ignore (m : Prog ε σ α) : Prog ε σ Unit := fun s => (.ok (), (m s).2)

def zoom (l : Lens σ τ) (m : Prog ε τ α) : Prog ε σ α :=
  fun s => ((m (l.get s)).1, l.set (m (l.get s)).2 s)

/-- At most `n` rounds of `body`, which asks for another round with `.inl`; `out` runs when the
rounds are used up. -/
def loop (body : α → Prog ε σ (α ⊕ β)) (out : α → Prog ε σ β) : Nat → α → Prog ε σ β
  | 0, a => out a
  | n + 1, a => body a >>= fun r =>
      match r with
      | .inl a' => loop body out n a'
      | .inr b => pure b

def forIndex (lo : Nat) (body : Nat → α → Prog ε σ α) : Nat → α → Prog ε σ α
  | 0, a => pure a
  | n + 1, a => forIndex lo body n a >>= body (lo + n)

def wp (m : Prog ε σ α) (Q : Except ε α → σ → Prop) (s : σ) : Prop := Q (m s).1 (m s).2

theorem wp_mono {m : Prog ε σ α} {Q Q' : Except ε α → σ → Prop} {s : σ}
    (h : wp m Q s) (hq : ∀ r s', Q r s' → Q' r s') : wp m Q' s := hq _ _ h

theorem wp_outcome (m : Prog ε σ α) (s : σ) : wp m (fun r s' => m s = (r, s')) s := rfl

theorem wp_and {m : Prog ε σ α} {Q Q' : Except ε α → σ → Prop} {s : σ}
    (h : wp m Q s) (h' : wp m Q' s) : wp m (fun r s' => Q r s' ∧ Q' r s') s := ⟨h, h'⟩

@[simp] theorem wp_pure (a : α) (Q : Except ε α → σ → Prop) (s : σ) :
    wp (pure a) Q s ↔ Q (.ok a) s := Iff.rfl

@[simp] theorem wp_fail (e : ε) (Q : Except ε α → σ → Prop) (s : σ) :
    wp (fail e) Q s ↔ Q (.error e) s := Iff.rfl

@[simp] theorem wp_read (Q : Except ε σ → σ → Prop) (s : σ) : wp read Q s ↔ Q (.ok s) s := Iff.rfl

@[simp] theorem wp_gets (f : σ → α) (Q : Except ε α → σ → Prop) (s : σ) :
    wp (gets f) Q s ↔ Q (.ok (f s)) s := Iff.rfl

@[simp] theorem wp_modify (f : σ → σ) (Q : Except ε Unit → σ → Prop) (s : σ) :
    wp (modify f) Q s ↔ Q (.ok ()) (f s) := Iff.rfl

@[simp] theorem wp_attempt (m : Prog ε σ α) (Q : Except ε (Except ε α) → σ → Prop) (s : σ) :
    wp (attempt m) Q s ↔ wp m (fun r s' => Q (.ok r) s') s := Iff.rfl

@[simp] theorem wp_ignore (m : Prog ε σ α) (Q : Except ε Unit → σ → Prop) (s : σ) :
    wp (ignore m) Q s ↔ wp m (fun _ s' => Q (.ok ()) s') s := Iff.rfl

@[simp] theorem wp_zoom (l : Lens σ τ) (m : Prog ε τ α) (Q : Except ε α → σ → Prop) (s : σ) :
    wp (zoom l m) Q s ↔ wp m (fun r t => Q r (l.set t s)) (l.get s) := Iff.rfl

/-- What is left to show after a step whose outcome is `r`: the rest of the sequence runs on a
value, an error ends it. -/
def After (f : α → Prog ε σ β) (Q : Except ε β → σ → Prop) : Except ε α → σ → Prop
  | .ok a, s => wp (f a) Q s
  | .error e, s => Q (.error e) s

@[simp] theorem after_ok (f : α → Prog ε σ β) (Q : Except ε β → σ → Prop) (a : α) (s : σ) :
    After f Q (.ok a) s ↔ wp (f a) Q s := Iff.rfl

@[simp] theorem after_error (f : α → Prog ε σ β) (Q : Except ε β → σ → Prop) (e : ε) (s : σ) :
    After f Q (.error e) s ↔ Q (.error e) s := Iff.rfl

@[simp] theorem wp_bind (m : Prog ε σ α) (f : α → Prog ε σ β) (Q : Except ε β → σ → Prop) (s : σ) :
    wp (m >>= f) Q s ↔ wp m (After f Q) s := by
  change Q ((m >>= f) s).1 ((m >>= f) s).2 ↔ After f Q (m s).1 (m s).2
  have hb : (m >>= f) s = match m s with
      | (.ok a, s') => f a s'
      | (.error e, s') => (.error e, s') := rfl
  rw [hb]
  rcases m s with ⟨r, s'⟩
  cases r <;> rfl

@[simp] theorem wp_map (g : α → β) (m : Prog ε σ α) (Q : Except ε β → σ → Prop) (s : σ) :
    wp (g <$> m) Q s ↔ wp m (After (fun a => pure (g a)) Q) s := wp_bind m (fun a => pure (g a)) Q s

theorem wp_ite (c : Prop) [Decidable c] (m m' : Prog ε σ α) (Q : Except ε α → σ → Prop) (s : σ) :
    wp (if c then m else m') Q s ↔ (c → wp m Q s) ∧ (¬c → wp m' Q s) := by
  by_cases hc : c <;> simp [hc]

theorem wp_ite_bind {c : Prop} [Decidable c] {m : Prog ε σ Unit} {rest : Unit → Prog ε σ α}
    {Q : Except ε α → σ → Prop} {s : σ} (R : Except ε Unit → σ → Prop) (hm : c → wp m R s)
    (hs : ¬c → R (.ok ()) s) (hrest : ∀ r t, R r t → After rest Q r t) :
    wp (if c then m >>= rest else rest ()) Q s := by
  rw [wp_ite, wp_bind]
  exact ⟨fun hc => wp_mono (hm hc) hrest, fun hc => hrest _ _ (hs hc)⟩

/-- What one round must give for the invariant `I` to carry the loop to `Q`. -/
def Round (I : α → σ → Prop) (Q : Except ε β → σ → Prop) : Except ε (α ⊕ β) → σ → Prop
  | .ok (.inl a), s => I a s
  | .ok (.inr b), s => Q (.ok b) s
  | .error e, s => Q (.error e) s

/-- The invariant rule of `loop`. -/
theorem wp_loop {body : α → Prog ε σ (α ⊕ β)} {out : α → Prog ε σ β}
    {Q : Except ε β → σ → Prop} (I : α → σ → Prop)
    (hbody : ∀ a s, I a s → wp (body a) (Round I Q) s)
    (hout : ∀ a s, I a s → wp (out a) Q s) (n : Nat) {a : α} {s : σ} (h : I a s) :
    wp (loop body out n a) Q s := by
  induction n generalizing a s with
  | zero => exact hout a s h
  | succ n ih =>
    rw [loop, wp_bind]
    apply wp_mono (hbody a s h)
    intro r s' hr
    match r, hr with
    | .ok (.inl a'), hr => exact ih hr
    | .ok (.inr b), hr => exact hr
    | .error e, hr => exact hr

def rounds (body : α → Prog ε σ (α ⊕ β)) : Nat → α → σ → List (α × σ)
  | 0, _, _ => []
  | n + 1, a, s => (a, s) ::
      match body a s with
      | (.ok (.inl a'), s') => rounds body n a' s'
      | _ => []

/-- The invariant rule of `loop` when something is known of every round that takes place. -/
theorem wp_loop_rounds {body : α → Prog ε σ (α ⊕ β)} {out : α → Prog ε σ β}
    {Q : Except ε β → σ → Prop} {P : α × σ → Prop} (I : α → σ → Prop)
    (hbody : ∀ a s, I a s → P (a, s) → wp (body a) (Round I Q) s)
    (hout : ∀ a s, I a s → wp (out a) Q s) (n : Nat) {a : α} {s : σ}
    (hP : ∀ x ∈ rounds body n a s, P x) (h : I a s) : wp (loop body out n a) Q s := by
  induction n generalizing a s with
  | zero => exact hout a s h
  | succ n ih =>
    rw [loop, wp_bind]
    have hround := hbody a s h (hP _ List.mem_cons_self)
    refine wp_mono (wp_and hround (wp_outcome _ _)) fun r s' ⟨hr, hout⟩ => ?_
    match r, hr, hout with
    | .ok (.inl a'), hr, hout =>
      refine ih (fun x hx => hP x (List.mem_cons_of_mem _ ?_)) hr
      rw [hout]
      exact hx
    | .ok (.inr b), hr, _ => exact hr
    | .error e, hr, _ => exact hr

/-- The rule for a loop whose rounds use up a measure: it ends before the rounds do. -/
theorem wp_loop_of_measure {body : α → Prog ε σ (α ⊕ β)} {out : α → Prog ε σ β}
    {Q : Except ε β → σ → Prop} (I : α → σ → Prop) (μ : α → σ → Nat)
    (hbody : ∀ a s, I a s → wp (body a) (Round (fun a' s' => I a' s' ∧ μ a' s' < μ a s) Q) s)
    {n : Nat} {a : α} {s : σ} (h : I a s) (hn : μ a s < n) : wp (loop body out n a) Q s := by
  induction n generalizing a s with
  | zero => exact absurd hn (Nat.not_lt_zero _)
  | succ n ih =>
    rw [loop, wp_bind]
    apply wp_mono (hbody a s h)
    intro r s' hr
    match r, hr with
    | .ok (.inl a'), hr => exact ih hr.1 (Nat.lt_of_lt_of_le hr.2 (Nat.le_of_lt_succ hn))
    | .ok (.inr b), hr => exact hr
    | .error e, hr => exact hr

/-- The invariant rule of `loop` with an invariant that counts the rounds. -/
theorem wp_loop_counted {body : α → Prog ε σ (α ⊕ β)} {out : α → Prog ε σ β}
    {Q : Except ε β → σ → Prop} {n : Nat} (I : Nat → α → σ → Prop)
    (hbody : ∀ k a s, k < n → I k a s → wp (body a) (Round (I (k + 1)) Q) s)
    (hout : ∀ a s, I n a s → wp (out a) Q s) {a : α} {s : σ} (h : I 0 a s) :
    wp (loop body out n a) Q s := by
  induction n generalizing I a s with
  | zero => exact hout a s h
  | succ n ih =>
    rw [loop, wp_bind]
    apply wp_mono (hbody 0 a s n.succ_pos h)
    intro r t hr
    rcases r with e | a' | b
    · exact hr
    · exact ih (fun k => I (k + 1)) (fun k a s hk => hbody (k + 1) a s (Nat.succ_lt_succ hk)) hout hr
    · exact hr

def Fails (P : ε → Prop) (m : Prog ε σ α) : Prop := ∀ s, wp m (fun r _ => ∀ e, r = .error e → P e) s

section
variable {P : ε → Prop}

theorem Fails.mono {P' : ε → Prop} {m : Prog ε σ α} (h : Fails P m) (hp : ∀ e, P e → P' e) :
    Fails P' m := fun s e he => hp e (h s e he)

theorem fails_fail {e : ε} (h : P e) : Fails P (fail e : Prog ε σ α) :=
  fun _ e' he => by rwa [← Except.error.inj he]

theorem fails_pure (a : α) : Fails P (pure a : Prog ε σ α) := fun _ _ he => by cases he

theorem fails_gets (f : σ → α) : Fails P (gets f) := fun _ _ he => by cases he

theorem fails_modify (f : σ → σ) : Fails P (modify f) := fun _ _ he => by cases he

theorem fails_ignore (m : Prog ε σ α) : Fails P (ignore m) := fun _ _ he => by cases he

theorem fails_zoom (l : Lens σ τ) {m : Prog ε τ α} (h : Fails P m) : Fails P (zoom l m) :=
  fun s => h (l.get s)

theorem fails_bind {m : Prog ε σ α} {f : α → Prog ε σ β} (h : Fails P m) (hf : ∀ a, Fails P (f a)) :
    Fails P (m >>= f) := by
  intro s
  rw [wp_bind]
  apply wp_mono (h s)
  intro r s' hr
  match r, hr with
  | .ok a, _ => exact hf a s'
  | .error e, hr => exact fun e' he => hr e' (congrArg Except.error (Except.error.inj he))

theorem fails_bind_attempt {m : Prog ε σ α} {f : Except ε α → Prog ε σ β} (h : Fails P m)
    (hf : ∀ r, (∀ e, r = .error e → P e) → Fails P (f r)) : Fails P (attempt m >>= f) := by
  intro s
  rw [wp_bind, wp_attempt]
  exact wp_mono (h s) fun r s' hr => hf r hr s'

theorem fails_ite {c : Prop} [Decidable c] {m m' : Prog ε σ α} (h : Fails P m) (h' : Fails P m') :
    Fails P (if c then m else m') := by
  split <;> assumption

theorem fails_loop {body : α → Prog ε σ (α ⊕ β)} {out : α → Prog ε σ β}
    (h : ∀ a, Fails P (body a)) (hout : ∀ a, Fails P (out a)) (n : Nat) (a : α) :
    Fails P (loop body out n a) := by
  induction n generalizing a with
  | zero => exact hout a
  | succ n ih =>
    apply fails_bind (h a)
    intro r
    match r with
    | .inl a' => exact ih a'
    | .inr b => exact fails_pure b

end

def Consumes (f : σ → List γ) (m : Prog ε σ α) : Prop := ∀ s, wp m (fun _ s' => f s' <:+ f s) s

section
variable {f : σ → List γ}

theorem consumes_pure (a : α) : Consumes f (pure a : Prog ε σ α) := fun _ => List.suffix_rfl

theorem consumes_fail (e : ε) : Consumes f (fail e : Prog ε σ α) := fun _ => List.suffix_rfl

theorem consumes_read : Consumes f (read : Prog ε σ σ) := fun _ => List.suffix_rfl

theorem consumes_gets (g : σ → α) : Consumes f (gets g : Prog ε σ α) := fun _ => List.suffix_rfl

theorem consumes_modify {g : σ → σ} (h : ∀ s, f (g s) = f s) :
    Consumes f (modify g : Prog ε σ Unit) := fun s => by
  change f (g s) <:+ f s
  rw [h]

theorem consumes_attempt {m : Prog ε σ α} (h : Consumes f m) : Consumes f (attempt m) := h

theorem consumes_ignore {m : Prog ε σ α} (h : Consumes f m) : Consumes f (ignore m) := h

theorem consumes_zoom {l : Lens σ τ} {g : τ → List γ} (hg : ∀ s, f s = g (l.get s))
    {m : Prog ε τ α} (h : Consumes g m) : Consumes f (zoom l m) := fun s => by
  change f (l.set (m (l.get s)).2 s) <:+ f s
  rw [hg, hg s, l.get_set]
  exact h (l.get s)

theorem consumes_zoom_of_set {l : Lens σ τ} (hf : ∀ t s, f (l.set t s) = f s) (m : Prog ε τ α) :
    Consumes f (zoom l m) := fun s => by
  change f (l.set (m (l.get s)).2 s) <:+ f s
  rw [hf]

theorem consumes_bind {m : Prog ε σ α} {k : α → Prog ε σ β} (h : Consumes f m)
    (hk : ∀ a, Consumes f (k a)) : Consumes f (m >>= k) := by
  intro s
  rw [wp_bind]
  apply wp_mono (h s)
  intro r s' hr
  match r with
  | .ok a => exact (hk a s').trans hr
  | .error e => exact hr

theorem consumes_ite {c : Prop} [Decidable c] {m m' : Prog ε σ α} (h : Consumes f m)
    (h' : Consumes f m') : Consumes f (if c then m else m') := by
  split <;> assumption

theorem consumes_loop {body : α → Prog ε σ (α ⊕ β)} {out : α → Prog ε σ β}
    (h : ∀ a, Consumes f (body a)) (hout : ∀ a, Consumes f (out a)) (n : Nat) (a : α) :
    Consumes f (loop body out n a) := by
  induction n generalizing a with
  | zero => exact hout a
  | succ n ih =>
    apply consumes_bind (h a)
    intro r
    match r with
    | .inl a' => exact ih a'
    | .inr b => exact consumes_pure b

end

theorem eq_ok {m : Prog ε σ α} {a : α} {s : σ} (h : (m s).1 = .ok a) : m s = (.ok a, (m s).2) :=
  Prod.ext h rfl

theorem bind_ok {m : Prog ε σ α} {f : α → Prog ε σ β} {a : α} {s t : σ}
    (h : m s = (.ok a, t)) : (m >>= f) s = f a t := by
  change (match m s with | (.ok a, s') => f a s' | (.error e, s') => (.error e, s')) = _
  rw [h]

theorem read_bind (f : σ → Prog ε σ β) (s : σ) : (read >>= f) s = f s s := rfl

theorem gets_bind (g : σ → α) (f : α → Prog ε σ β) (s : σ) : (gets g >>= f) s = f (g s) s := rfl

theorem bind_error {m : Prog ε σ α} {f : α → Prog ε σ β} {e : ε} {s s' : σ}
    (h : m s = (.error e, s')) : (m >>= f) s = (.error e, s') := by
  change (match m s with | (.ok a, s') => f a s' | (.error e, s') => (.error e, s')) = _
  rw [h]

theorem of_bind_ok {m : Prog ε σ α} {f : α → Prog ε σ β} {b : β} {s u : σ}
    (h : (m >>= f) s = (.ok b, u)) : ∃ a t, m s = (.ok a, t) ∧ f a t = (.ok b, u) := by
  rcases hm : m s with ⟨e | a, t⟩
  · rw [bind_error hm] at h
    cases h
  · exact ⟨a, t, rfl, (bind_ok hm).symm.trans h⟩

theorem bind_congr_left {m m' : Prog ε σ α} {f : α → Prog ε σ β} {s t : σ} (h : m s = m' t) :
    (m >>= f) s = (m' >>= f) t := by
  rcases hm : m' t with ⟨e | a, u⟩
  · rw [bind_error hm, bind_error (h.trans hm)]
  · rw [bind_ok hm, bind_ok (h.trans hm)]

def Keeps (f : σ → τ) (m : Prog ε σ α) : Prop := ∀ s, f (m s).2 = f s

section
variable {f : σ → τ}

theorem keeps_pure (a : α) : Keeps f (pure a : Prog ε σ α) := fun _ => rfl

theorem keeps_fail (e : ε) : Keeps f (fail e : Prog ε σ α) := fun _ => rfl

theorem keeps_modify {g : σ → σ} (h : ∀ s, f (g s) = f s) : Keeps f (modify g : Prog ε σ Unit) := h

theorem keeps_gets {ρ : Type} (g : σ → ρ) : Keeps f (gets g : Prog ε σ ρ) := fun _ => rfl

theorem keeps_ignore {m : Prog ε σ α} (h : Keeps f m) : Keeps f (ignore m) := h

theorem keeps_attempt {m : Prog ε σ α} (h : Keeps f m) : Keeps f (attempt m) := h

theorem keeps_zoom {ρ : Type} {l : Lens σ ρ} (hf : ∀ t s, f (l.set t s) = f s) (m : Prog ε ρ α) :
    Keeps f (zoom l m) := fun s => hf _ s

theorem keeps_bind_right {m : Prog ε σ α} {k : α → Prog ε σ β} (hk : ∀ a, Keeps f (k a)) (s : σ) :
    f ((m >>= k) s).2 = f (m s).2 := by
  rcases hm : m s with ⟨e | a, t⟩
  · rw [bind_error hm]
  · rw [bind_ok hm]
    exact hk a t

theorem keeps_bind {m : Prog ε σ α} {k : α → Prog ε σ β} (h : Keeps f m) (hk : ∀ a, Keeps f (k a)) :
    Keeps f (m >>= k) := by
  intro s
  rw [keeps_bind_right hk]
  exact h s

theorem keeps_ite {c : Prop} [Decidable c] {m m' : Prog ε σ α} (h : Keeps f m) (h' : Keeps f m') :
    Keeps f (if c then m else m') := by
  split <;> assumption

theorem keeps_loop {body : α → Prog ε σ (α ⊕ β)} {out : α → Prog ε σ β}
    (h : ∀ a, Keeps f (body a)) (hout : ∀ a, Keeps f (out a)) (n : Nat) (a : α) :
    Keeps f (loop body out n a) := by
  induction n generalizing a with
  | zero => exact hout a
  | succ n ih =>
    apply keeps_bind (h a)
    intro r
    match r with
    | .inl a' => exact ih a'
    | .inr b => exact keeps_pure b

theorem keeps_forIndex {lo : Nat} {body : Nat → α → Prog ε σ α} (h : ∀ i a, Keeps f (body i a))
    (n : Nat) (a : α) : Keeps f (forIndex lo body n a) := by
  induction n with
  | zero => exact keeps_pure a
  | succ n ih => exact keeps_bind ih fun b => h _ b

end

theorem bind_assoc (m : Prog ε σ α) (f : α → Prog ε σ β) (g : β → Prog ε σ γ) :
    m >>= f >>= g = m >>= fun a => f a >>= g := by
  funext s
  rcases hm : m s with ⟨r | a, t⟩
  · rw [bind_error hm, bind_error (bind_error hm)]
  · rw [bind_ok hm]
    rcases hf : f a t with ⟨r | b, u⟩
    · rw [bind_error hf, bind_error ((bind_ok hm).trans hf)]
    · rw [bind_ok hf, bind_ok ((bind_ok hm).trans hf)]

theorem bind_pure (m : Prog ε σ α) : m >>= pure = m := by
  funext s
  rcases hm : m s with ⟨r | a, t⟩
  · rw [bind_error hm]
  · rw [bind_ok hm]
    rfl

theorem pure_bind (a : α) (f : α → Prog ε σ β) : (pure a : Prog ε σ α) >>= f = f a := rfl

theorem forIndex_ok {lo : Nat} {body : Nat → α → Prog ε σ α} {a : Nat → α} {s : Nat → σ} {n : Nat}
    (h : ∀ i, i < n → body (lo + i) (a i) (s i) = (.ok (a (i + 1)), s (i + 1))) :
    forIndex lo body n (a 0) (s 0) = (.ok (a n), s n) := by
  induction n with
  | zero => rfl
  | succ n ih =>
    rw [forIndex, bind_ok (ih fun i hi => h i (Nat.lt_succ_of_lt hi))]
    exact h n (Nat.lt_succ_self n)

/-- A loop whose first rounds go through ends with the round that does not. -/
theorem forIndex_error {lo : Nat} {body : Nat → α → Prog ε σ α} {a : Nat → α} {s : Nat → σ}
    {k n : Nat} {e : ε} {t : σ} (hk : k < n)
    (h : ∀ i, i < k → body (lo + i) (a i) (s i) = (.ok (a (i + 1)), s (i + 1)))
    (he : body (lo + k) (a k) (s k) = (.error e, t)) :
    forIndex lo body n (a 0) (s 0) = (.error e, t) := by
  induction n with
  | zero => exact absurd hk (Nat.not_lt_zero k)
  | succ n ih =>
    rw [forIndex]
    rcases Nat.lt_succ_iff_lt_or_eq.mp hk with hlt | rfl
    · exact bind_error (ih hlt)
    · exact (bind_ok (forIndex_ok h)).trans he

/-- `m` goes through from `s`, and `Q` holds of its value and of the state it leaves. -/
def Runs (m : Prog ε σ α) (Q : α → σ → Prop) (s : σ) : Prop := ∃ a t, m s = (.ok a, t) ∧ Q a t

theorem Runs.mono {m : Prog ε σ α} {Q Q' : α → σ → Prop} {s : σ} (h : Runs m Q s)
    (hq : ∀ a t, Q a t → Q' a t) : Runs m Q' s := by
  obtain ⟨a, t, hm, ha⟩ := h
  exact ⟨a, t, hm, hq a t ha⟩

theorem runs_pure {a : α} {Q : α → σ → Prop} {s : σ} (h : Q a s) : Runs (pure a : Prog ε σ α) Q s :=
  ⟨a, s, rfl, h⟩

theorem Runs.bind {m : Prog ε σ α} {f : α → Prog ε σ β} {Q : α → σ → Prop} {Q' : β → σ → Prop} {s : σ}
    (h : Runs m Q s) (hf : ∀ a t, Q a t → Runs (f a) Q' t) : Runs (m >>= f) Q' s := by
  obtain ⟨a, t, hm, ha⟩ := h
  obtain ⟨b, u, hb, hq⟩ := hf a t ha
  exact ⟨b, u, (bind_ok hm).trans hb, hq⟩

theorem runs_ite {c : Prop} [Decidable c] {m m' : Prog ε σ α} {Q : α → σ → Prop} {s : σ}
    (h : c → Runs m Q s) (h' : ¬c → Runs m' Q s) : Runs (if c then m else m') Q s := by
  split
  · exact h ‹c›
  · exact h' ‹¬c›

theorem runs_zoom {l : Lens σ τ} {m : Prog ε τ α} {Q : α → σ → Prop} {s : σ}
    (h : Runs m (fun a t => Q a (l.set t s)) (l.get s)) : Runs (zoom l m) Q s := by
  obtain ⟨a, t, hm, ha⟩ := h
  exact ⟨a, l.set t s, by simp only [zoom, hm], ha⟩

theorem runs_forIndex {lo n : Nat} {body : Nat → α → Prog ε σ α} {a : α} {s : σ}
    (I : Nat → α → σ → Prop) (h : I 0 a s)
    (hstep : ∀ k b t, k < n → I k b t → Runs (body (lo + k) b) (I (k + 1)) t) :
    Runs (forIndex lo body n a) (I n) s := by
  induction n with
  | zero => exact ⟨a, s, rfl, h⟩
  | succ n ih =>
    exact (ih fun k b t hk => hstep k b t (Nat.lt_succ_of_lt hk)).bind fun b t hb =>
      hstep n b t (Nat.lt_succ_self n) hb

/-- A bound on the rounds that stays above the measure is never noticed. -/
theorem loop_congr_of_measure {body : α → Prog ε σ (α ⊕ β)} {out : α → Prog ε σ β}
    (μ : α → σ → Nat)
    (hbody : ∀ a s, wp (body a) (Round (fun a' s' => μ a' s' < μ a s) fun _ _ => True) s)
    {n m : Nat} {a : α} {s : σ} (hn : μ a s < n) (hm : μ a s < m) :
    loop body out n a s = loop body out m a s := by
  induction n generalizing m a s with
  | zero => exact absurd hn (Nat.not_lt_zero _)
  | succ n ih =>
    cases m with
    | zero => exact absurd hm (Nat.not_lt_zero _)
    | succ m =>
      have hb : Round (fun a' s' => μ a' s' < μ a s) (fun _ _ => True) (body a s).1 (body a s).2 :=
        hbody a s
      rw [loop, loop]
      rcases hr : body a s with ⟨r, s'⟩
      rw [hr] at hb
      match r, hr, hb with
      | .ok (.inl a'), hr, hb =>
        rw [bind_ok hr, bind_ok hr]
        exact ih (Nat.lt_of_lt_of_le hb (Nat.le_of_lt_succ hn))
          (Nat.lt_of_lt_of_le hb (Nat.le_of_lt_succ hm))
      | .ok (.inr b), hr, _ => rw [bind_ok hr, bind_ok hr]
      | .error e, hr, _ => rw [bind_error hr, bind_error hr]

def forList (body : γ → Prog ε σ Unit) : List γ → Prog ε σ Unit
  | [] => pure ()
  | c :: l => do
    body c
    forList body l

theorem forList_append (body : γ → Prog ε σ Unit) (l l' : List γ) :
    forList body (l ++ l') = forList body l >>= fun _ => forList body l' := by
  induction l with
  | nil => rfl
  | cons c l ih =>
    show (body c >>= fun _ => forList body (l ++ l')) = _
    rw [ih]
    exact (bind_assoc _ _ _).symm

theorem forList_flatMap {δ : Type} (body : γ → Prog ε σ Unit) (f : δ → List γ) (l : List δ) :
    forList body (l.flatMap f) = forList (fun d => forList body (f d)) l := by
  induction l with
  | nil => rfl
  | cons d l ih =>
    rw [List.flatMap_cons, forList_append, ih]
    rfl

end Prog
