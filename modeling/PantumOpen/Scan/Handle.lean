import PantumOpen.Lib.Buffer
import PantumOpen.Scan.Endpoint
import PantumOpen.Scan.Options

/-! The scanner handle and the state a call of the backend runs on. -/

namespace PantumOpen.Scan

/-- What the backend does not compute from its own state: the tone curve of `build_gamma`
(colour or not), the thresholds of `build_dither_mask`, what freshly reserved memory holds, and
the debug level. -/
structure Env where
  toneCurve : Bool → UInt8 → UInt8
  ditherMask : Nat → UInt8
  uninit : Buffer
  dbgLevel : Nat

/-- `Pantum_Handle`. `out` holds the `out_len` bytes of the output queue, and `outAlloc` is the
size of the block behind it, which the source does not record. -/
structure Handle where
  opt : Opt → Descriptor
  val : OptionValues
  params : Parameters
  scanning : Bool
  locked : Bool
  cancelled : Bool
  eof : Bool
  nonBlocking : Bool
  hasAdf : Bool
  feeding : Bool
  nextRow : Nat
  threshold : Nat
  halftone : Bool
  whiteTop : Nat
  whiteBottom : Nat
  whiteLeft : Nat
  whiteRight : Nat
  gamma : UInt8 → UInt8
  out : List UInt8
  outPos : Nat
  outCap : Nat
  outAlloc : Nat
  rawCap : Nat

/-- The host side of a session: the handle, whether it is in the handle list, the outcomes of
the allocations to come, and whether the dither mask has been built in this process. -/
structure Host where
  h : Handle
  valid : Bool
  allocs : List Bool
  ditherReady : Bool

structure Session where
  host : Host
  inp : Inp
  outp : Outp

def hostLens : Lens Session Host where
  get := Session.host
  set t s := { s with host := t }
  get_set _ _ := rfl
  set_get _ := rfl
  set_set _ _ _ := rfl

def inpLens : Lens Session Inp where
  get := Session.inp
  set t s := { s with inp := t }
  get_set _ _ := rfl
  set_get _ := rfl
  set_set _ _ _ := rfl

def outpLens : Lens Session Outp where
  get := Session.outp
  set t s := { s with outp := t }
  get_set _ _ := rfl
  set_get _ := rfl
  set_set _ _ _ := rfl

abbrev onHost {α : Type} (m : Prog Status Host α) : Prog Status Session α := m.zoom hostLens

abbrev onInp {α : Type} (m : Prog Status Inp α) : Prog Status Session α := m.zoom inpLens

abbrev onOutp {α : Type} (m : Prog Status Outp α) : Prog Status Session α := m.zoom outpLens

def Host.onHandle (f : Handle → Handle) (s : Host) : Host := { s with h := f s.h }

def Session.onHandle (f : Handle → Handle) (s : Session) : Session :=
  { s with host := s.host.onHandle f }

def setHandle (f : Handle → Handle) : Prog Status Session Unit := Prog.modify (Session.onHandle f)

def getHandle : Prog Status Session Handle := Prog.gets fun s => s.host.h

@[simp] theorem Session.onHandle_inp (f : Handle → Handle) (s : Session) :
    (s.onHandle f).inp = s.inp := rfl

@[simp] theorem Session.onHandle_outp (f : Handle → Handle) (s : Session) :
    (s.onHandle f).outp = s.outp := rfl

@[simp] theorem Session.onHandle_h (f : Handle → Handle) (s : Session) :
    (s.onHandle f).host.h = f s.host.h := rfl

@[simp] theorem Session.onHandle_allocs (f : Handle → Handle) (s : Session) :
    (s.onHandle f).host.allocs = s.host.allocs := rfl

@[simp] theorem Session.onHandle_valid (f : Handle → Handle) (s : Session) :
    (s.onHandle f).host.valid = s.host.valid := rfl

/-- One allocation; past the end of the list of outcomes it succeeds. -/
def alloc : Prog Status Host Bool := fun s =>
  match s.allocs with
  | [] => (.ok true, s)
  | b :: bs => (.ok b, { s with allocs := bs })

def ofStatus {σ : Type} (st : Status) : Prog Status σ Unit :=
  if st = .good then pure () else Prog.fail st

def Handle.zero : Handle where
  opt := fun _ => ⟨.int, ⟨false, false, false⟩, .none⟩
  val := ⟨none, 0, none, 0, 0, 0, 0, 0, 0⟩
  params := ⟨.gray, false, 0, 0, 0, 0⟩
  scanning := false
  locked := false
  cancelled := false
  eof := false
  nonBlocking := false
  hasAdf := false
  feeding := false
  nextRow := 0
  threshold := 0
  halftone := false
  whiteTop := 0
  whiteBottom := 0
  whiteLeft := 0
  whiteRight := 0
  gamma := fun _ => 0
  out := []
  outPos := 0
  outCap := 0
  outAlloc := 0
  rawCap := 0

end PantumOpen.Scan
