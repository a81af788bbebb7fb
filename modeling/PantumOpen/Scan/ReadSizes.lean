import PantumOpen.Scan.ImageRun
import PantumOpen.Scan.JobFrame

/-! The sizes of the reads do not matter: a frontend gets the same bytes, the same status and the same
session whatever it asks for at a time. -/

namespace PantumOpen.Scan
open Prog

variable {env : Env} {s t : Session} {n m : Int} {ns ms : List Int}

/-- The reads of a frontend up to the first that is not GOOD: the bytes it got, the status of that
read if it came to one, and the session behind it. -/
def readOut (env : Env) : List Int → Session → List UInt8 × Option Status × Session
  | [], s => ([], none, s)
  | n :: ns, s =>
    match saneRead env n s with
    | (.ok bs, t) => (bs ++ (readOut env ns t).1, (readOut env ns t).2)
    | (.error st, t) => ([], some st, t)

def Ended (env : Env) (ns : List Int) (s : Session) : Prop := (readOut env ns s).2.1 ≠ none

instance (ns : List Int) : Decidable (Ended env ns s) := inferInstanceAs (Decidable (_ ≠ _))

def Session.queue (s : Session) : List UInt8 := s.host.h.out.drop s.host.h.outPos

def Session.advance (s : Session) (k : Nat) : Session :=
  s.onHandle fun h => { h with outPos := h.outPos + k }

structure Session.Readable (s : Session) : Prop where
  valid : s.host.valid = true
  cancelled : s.host.h.cancelled = false

theorem Session.Readable.advance (h : s.Readable) (k : Nat) : (s.advance k).Readable := ⟨h.valid, h.cancelled⟩

theorem Session.Readable.goes (hs : s.Readable) (hn : 0 < n) :
    (!s.host.valid || decide (n ≤ 0)) = false := by
  rw [hs.valid, decide_eq_false (not_le.mpr hn)]
  rfl

theorem Ended.cons (h : Ended env ns s) : ∃ k ks, ns = k :: ks := by
  cases ns with
  | nil => exact absurd rfl h
  | cons k ks => exact ⟨k, ks, rfl⟩

end PantumOpen.Scan
