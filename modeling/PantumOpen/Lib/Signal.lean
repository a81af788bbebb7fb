import PantumOpen.Lib.Prog

/-! Programs divided into statements, with a signal handler that runs between two of them. -/

namespace Prog
variable {ε σ τ α β : Type}

/-- A flag in the state, and the handler that raises it when it is armed. -/
structure Flag (σ : Type) where
  armed : σ → Bool
  raised : σ → Bool
  raise : σ → σ
  armed_raise : ∀ s, armed (raise s) = armed s
  raised_raise : ∀ s, armed s = true → raised (raise s) = true

def Flag.state (fl : Flag σ) (s : σ) : Bool × Bool := (fl.armed s, fl.raised s)

structure Flag.Part (fl : Flag σ) (l : Lens σ τ) (fl' : Flag τ) : Prop where
  raise : ∀ t s, fl.raise (l.set t s) = l.set (fl'.raise t) s
  state : ∀ t s, fl.state (l.set t s) = fl'.state t

theorem Flag.state_raise (fl : Flag σ) {s : σ} (h : fl.armed s = true) :
    fl.state (fl.raise s) = (true, true) :=
  Prod.ext ((fl.armed_raise s).trans h) (fl.raised_raise s h)

/-- A state together with the number of statements until the signal comes; `none` when it has come. -/
abbrev Timed (σ : Type) := σ × Option Nat

/-- One statement. A signal that is due runs the handler before it. -/
def strike (raise : σ → σ) (m : Prog ε σ α) : Prog ε (Timed σ) α := fun s =>
  match s.2 with
  | none => ((m s.1).1, ((m s.1).2, none))
  | some 0 => ((m (raise s.1)).1, ((m (raise s.1)).2, none))
  | some (k + 1) => ((m s.1).1, ((m s.1).2, some k))

def timedLens (l : Lens σ τ) : Lens (Timed σ) (Timed τ) where
  get s := (l.get s.1, s.2)
  set t s := (l.set t.1 s.1, t.2)
  get_set t s := by rw [l.get_set]
  set_get s := by rw [l.set_get]
  set_set t t' s := by rw [l.set_set]

/-- A division of the program `m` into statements that leave the flag as it is. -/
inductive Script (ε : Type) : {σ : Type} → Flag σ → {α : Type} → Prog ε σ α → Type 1
  | step {σ : Type} {fl : Flag σ} {α : Type} {m : Prog ε σ α}
      (h : ∀ s, fl.state (m s).2 = fl.state s) : Script ε fl m
  | bind {σ : Type} {fl : Flag σ} {α β : Type} {m : Prog ε σ α} {f : α → Prog ε σ β}
      (p : Script ε fl m) (q : ∀ a, Script ε fl (f a)) : Script ε fl (m >>= f)
  | attempt {σ : Type} {fl : Flag σ} {α : Type} {m : Prog ε σ α} (p : Script ε fl m) :
      Script ε fl (Prog.attempt m)
  | ignore {σ : Type} {fl : Flag σ} {α : Type} {m : Prog ε σ α} (p : Script ε fl m) :
      Script ε fl (Prog.ignore m)
  | zoom {σ τ : Type} {fl : Flag σ} {fl' : Flag τ} {l : Lens σ τ} {α : Type} {m : Prog ε τ α}
      (hl : fl.Part l fl') (p : Script ε fl' m) : Script ε fl (Prog.zoom l m)

namespace Script
variable {fl : Flag σ} {m : Prog ε σ α}

def exec : {σ : Type} → {fl : Flag σ} → {α : Type} → {m : Prog ε σ α} → Script ε fl m →
    Prog ε (Timed σ) α
  | _, fl, _, m, .step _ => strike fl.raise m
  | _, _, _, _, .bind p q => p.exec >>= fun a => (q a).exec
  | _, _, _, _, .attempt p => Prog.attempt p.exec
  | _, _, _, _, .ignore p => Prog.ignore p.exec
  | _, _, _, _, .zoom (l := l) _ p => Prog.zoom (timedLens l) p.exec

def ite {c : Prop} [inst : Decidable c] {m m' : Prog ε σ α} (p : Script ε fl m)
    (q : Script ε fl m') : Script ε fl (if c then m else m') :=
  match inst with
  | .isTrue _ => p
  | .isFalse _ => q

def loop {body : α → Prog ε σ (α ⊕ β)} {out : α → Prog ε σ β} (p : ∀ a, Script ε fl (body a))
    (q : ∀ a, Script ε fl (out a)) : (n : Nat) → (a : α) → Script ε fl (Prog.loop body out n a)
  | 0, a => q a
  | n + 1, a => .bind (p a) fun r =>
      match r with
      | .inl a' => loop p q n a'
      | .inr _ => .step fun _ => rfl

theorem keeps (p : Script ε fl m) (s : σ) : fl.state (m s).2 = fl.state s := by
  induction p with
  | step h => exact h s
  | @bind σ fl α β m f p q ihp ihq =>
    rcases hm : m s with ⟨_ | a, s'⟩
    · rw [bind_error hm]
      have h := ihp s
      rwa [hm] at h
    · rw [bind_ok hm, ihq a s']
      have h := ihp s
      rwa [hm] at h
  | attempt p ih => exact ih s
  | ignore p ih => exact ih s
  | @zoom σ τ fl fl' l α m hl p ih =>
    have h := hl.state (l.get s) s
    rw [l.set_get] at h
    exact (hl.state _ s).trans ((ih _).trans h.symm)

theorem exec_none (p : Script ε fl m) (s : σ) : p.exec (s, none) = ((m s).1, ((m s).2, none)) := by
  induction p with
  | step h => rfl
  | @bind σ fl α β m f p q ihp ihq =>
    rcases hm : m s with ⟨_ | a, s'⟩
    · rw [bind_error hm, exec, bind_error (by rw [ihp, hm])]
    · rw [bind_ok hm, exec, bind_ok (a := a) (t := (s', none)) (by rw [ihp, hm]), ihq]
  | attempt p ih =>
    rw [exec, Prog.attempt, ih]
    rfl
  | ignore p ih =>
    rw [exec, Prog.ignore, ih]
    rfl
  | @zoom σ τ fl fl' l α m hl p ih =>
    have h := ih (l.get s)
    change ((p.exec (l.get s, none)).1, (l.set (p.exec (l.get s, none)).2.1 s, _)) = _
    rw [h]
    exact congrArg (Prod.mk _) (congrArg (Prod.mk _) (congrArg (fun x => x.2.2) h))

/-- What is left behind when the signal is to come after `k` statements: if it came the flag is
raised, and if it did not the statements were the program. -/
def Outcome (fl : Flag σ) (m : Prog ε σ α) (s : σ) (x : Except ε α × Timed σ) : Prop :=
  match x.2.2 with
  | none => fl.state x.2.1 = (true, true)
  | some k => x = ((m s).1, ((m s).2, some k))

theorem exec_some (p : Script ε fl m) {s : σ} (ha : fl.armed s = true) (k : Nat) :
    Outcome fl m s (p.exec (s, some k)) := by
  -- by induction on the script; `k` is how many statements the signal is still away
  induction p generalizing k with
  | @step σ fl α m h =>
    match k with
    | 0 => exact (h (fl.raise s)).trans (fl.state_raise ha)
    | k + 1 => rfl
  | @bind σ fl α β m f p q ihp ihq =>
    have hp := ihp ha k
    rcases hx : p.exec (s, some k) with ⟨_ | a, t, _ | j⟩ <;> rw [hx] at hp
    · rw [exec, bind_error hx]
      exact hp
    · rw [exec, bind_error hx]
      have hm : m s = (.error _, t) := (congrArg (fun x => (x.1, x.2.1)) hp).symm
      unfold Outcome
      rw [bind_error hm]
    · rw [exec, bind_ok hx, exec_none]
      exact ((q a).keeps t).trans hp
    · rw [exec, bind_ok hx]
      have hm : m s = (.ok a, t) := (congrArg (fun x => (x.1, x.2.1)) hp).symm
      have hat : fl.armed t = true := by
        have h := p.keeps s
        rw [hm] at h
        exact (congrArg Prod.fst h).trans ha
      have hq := ihq a hat j
      unfold Outcome at hq ⊢
      rw [bind_ok hm]
      exact hq
  | attempt p ih =>
    have h := ih ha k
    rcases hx : p.exec (s, some k) with ⟨r, t, _ | j⟩ <;> rw [hx] at h <;>
      rw [exec, Prog.attempt, hx]
    · exact h
    · exact congrArg (fun x => (Except.ok x.1, x.2)) h
  | ignore p ih =>
    have h := ih ha k
    rcases hx : p.exec (s, some k) with ⟨r, t, _ | j⟩ <;> rw [hx] at h <;>
      rw [exec, Prog.ignore, hx]
    · exact h
    · exact congrArg (fun x => (Except.ok (), x.2)) h
  | @zoom σ τ fl fl' l α m hl p ih =>
    have hstate := hl.state (l.get s) s
    rw [l.set_get] at hstate
    have h := ih ((congrArg Prod.fst hstate).symm.trans ha) k
    have hz : (Script.zoom hl p).exec (s, some k) =
        ((p.exec (l.get s, some k)).1, (timedLens l).set (p.exec (l.get s, some k)).2 (s, some k)) := rfl
    rcases hx : p.exec (l.get s, some k) with ⟨r, t, _ | j⟩ <;> rw [hx] at h <;> rw [hz, hx]
    · exact (hl.state t s).trans h
    · exact congrArg (fun x => (x.1, (timedLens l).set x.2 (s, none))) h

/-- However far off the signal is: from a state in which the flag is armed the statements leave it
armed, and raised if it was or the signal has come. -/
theorem exec_state (p : Script ε fl m) {s : σ} (ha : fl.armed s = true) (k : Option Nat) :
    fl.state (p.exec (s, k)).2.1 =
      (true, fl.raised s || (k.isSome && (p.exec (s, k)).2.2.isNone)) := by
  match k with
  | none =>
    rw [exec_none]
    exact (p.keeps s).trans (Prod.ext ha (by simp [Flag.state]))
  | some k =>
    have h := p.exec_some ha k
    rcases hx : p.exec (s, some k) with ⟨r, t, _ | j⟩ <;> rw [hx] at h
    · exact (show fl.state t = (true, true) from h).trans (by simp)
    · have hm : (m s).2 = t := (congrArg (fun x => x.2.1) h).symm
      rw [← hm]
      exact (p.keeps s).trans (Prod.ext ha (by simp [Flag.state]))

end Script
end Prog
