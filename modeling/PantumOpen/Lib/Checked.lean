import PantumOpen.Lib.Cells

/-! Programs that check the divisions, the numbers and the accesses they make, beside the programs
that do not. -/

namespace Checked
open Prog Cells

/-- What must not happen: a division by zero, a number that its type does not hold, an access out of
bounds or of a cell that was never written. -/
inductive Trap
  | division
  | inexact
  | memory (fault : Fault)
  deriving DecidableEq, Repr

/-- A checked program ends early as the plain one does, or in a trap. -/
inductive Stop (ε : Type)
  | error (e : ε)
  | trap (t : Trap)
  deriving DecidableEq, Repr

variable {ε σ τ α β : Type}

def plain (m : Prog ε σ α) : Prog (Stop ε) σ α := fun s => ((m s).1.mapError .error, (m s).2)

def divide (a b : Nat) : Prog (Stop ε) σ Nat := if b = 0 then fail (.trap .division) else pure (a / b)

def minus (a b : Nat) : Prog (Stop ε) σ Nat := if b ≤ a then pure (a - b) else fail (.trap .inexact)

/-- `n` in a type that holds the numbers below `bound`. -/
def below (bound n : Nat) : Prog (Stop ε) σ Nat := if n < bound then pure n else fail (.trap .inexact)

def inside (c : Prop) [Decidable c] : Prog (Stop ε) σ Unit :=
  if c then pure () else fail (.trap (.memory .bounds))

/-- The bytes that `m` puts into a new block, of which it has to write all. -/
def written (n : Nat) (m : Prog Fault Cells Unit) : Prog (Stop ε) σ (List UInt8) :=
  match m (fresh n) with
  | (.ok _, mem) =>
    match mem.mapM id with
    | some l => pure l
    | none => fail (.trap (.memory .blank))
  | (.error f, _) => fail (.trap (.memory f))

theorem divide_eq {a b : Nat} (h : b ≠ 0) : (divide a b : Prog (Stop ε) σ Nat) = pure (a / b) := if_neg h

theorem minus_eq {a b : Nat} (h : b ≤ a) : (minus a b : Prog (Stop ε) σ Nat) = pure (a - b) := if_pos h

theorem below_eq {bound n : Nat} (h : n < bound) : (below bound n : Prog (Stop ε) σ Nat) = pure n := if_pos h

theorem inside_eq {c : Prop} [Decidable c] (h : c) : (inside c : Prog (Stop ε) σ Unit) = pure () := if_pos h

theorem written_eq {n : Nat} {m : Prog Fault Cells Unit} {l : List UInt8}
    (h : m (fresh n) = (.ok (), l.map some)) : (written n m : Prog (Stop ε) σ (List UInt8)) = pure l := by
  unfold written
  rw [h]
  dsimp only
  rw [mapM_some]

/-- No check of `m'` strikes when it runs from `s`: it does what `m` does. -/
def Agrees (m' : Prog (Stop ε) σ α) (m : Prog ε σ α) (s : σ) : Prop := m' s = plain m s

theorem agrees_plain (m : Prog ε σ α) (s : σ) : Agrees (plain m) m s := rfl

theorem agrees_pure (a : α) (s : σ) : Agrees (pure a : Prog (Stop ε) σ α) (pure a) s := rfl

theorem agrees_gets (f : σ → α) (s : σ) : Agrees (gets f : Prog (Stop ε) σ α) (gets f) s := rfl

theorem Agrees.no_trap {m' : Prog (Stop ε) σ α} {m : Prog ε σ α} {s : σ} (h : Agrees m' m s) (t : Trap) :
    (m' s).1 ≠ .error (.trap t) := by
  rw [h]
  unfold plain
  cases (m s).1 with
  | ok a => exact fun ht => by cases ht
  | error e => exact fun ht => by cases ht

theorem Agrees.bind {m' : Prog (Stop ε) σ α} {m : Prog ε σ α} {k' : α → Prog (Stop ε) σ β}
    {k : α → Prog ε σ β} {s : σ} (h : Agrees m' m s)
    (hk : wp m (fun r t => ∀ a, r = .ok a → Agrees (k' a) (k a) t) s) : Agrees (m' >>= k') (m >>= k) s := by
  rw [Agrees, plain] at h
  rcases hm : m s with ⟨r, t⟩
  rw [wp, hm] at hk
  rw [hm] at h
  unfold Agrees plain
  cases r with
  | error e =>
    rw [bind_error h, bind_error hm]
    rfl
  | ok a =>
    rw [bind_ok h, bind_ok hm]
    exact hk a rfl

theorem agrees_ite {c : Prop} [Decidable c] {m' n' : Prog (Stop ε) σ α} {m n : Prog ε σ α} {s : σ}
    (h : c → Agrees m' m s) (h' : ¬c → Agrees n' n s) :
    Agrees (if c then m' else n') (if c then m else n) s := by
  split
  · exact h ‹c›
  · exact h' ‹¬c›

theorem Agrees.zoom {l : Lens σ τ} {m' : Prog (Stop ε) τ α} {m : Prog ε τ α} {s : σ}
    (h : Agrees m' m (l.get s)) : Agrees (zoom l m') (zoom l m) s := by
  rw [Agrees, plain] at h
  unfold Agrees plain Prog.zoom
  rw [h]

end Checked
