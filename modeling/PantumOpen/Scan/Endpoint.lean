import PantumOpen.Lib.Prog
import PantumOpen.Scan.Protocol

/-! The two bulk endpoints and the functions that move bytes and frames over them. What a
transfer does is read off a schedule, so a statement about every schedule is one about every
device, cable and timeout. -/

namespace PantumOpen.Scan
open Prog Bytes

inductive Rc
  | success | timeout | other
  deriving DecidableEq, Repr

/-- One transfer to come: its return code and how many bytes it is ready to move. -/
structure Xfer where
  rc : Rc
  n : Nat
  deriving DecidableEq, Repr

/-- The IN endpoint: the bytes the device still has for the host and the transfers to come. -/
structure Inp where
  inStream : List UInt8
  inSched : List Xfer

/-- The OUT endpoint: the transfers to come, the bytes that reached the device and the frames
that were passed to `send_frame`. -/
structure Outp where
  outSched : List Xfer
  outStream : List UInt8
  sent : List HostFrame

/-- One IN transfer of at most `len` bytes. With the schedule used up the device is silent. -/
def bulkIn (len : Nat) : Prog Status Inp (Rc × List UInt8) := fun i =>
  match i.inSched with
  | [] => (.ok (.timeout, []), i)
  | x :: xs =>
    (.ok (x.rc, i.inStream.take (min x.n len)), ⟨i.inStream.drop (min x.n len), xs⟩)

def bulkOut (buf : List UInt8) : Prog Status Outp (Rc × Nat) := fun o =>
  match o.outSched with
  | [] => (.ok (.timeout, 0), o)
  | x :: xs =>
    (.ok (x.rc, min x.n buf.length),
      { o with outSched := xs, outStream := o.outStream ++ buf.take (min x.n buf.length) })

/-- The retry loop of both transfer functions: up to `n` tries, success and timeout end it. -/
def retry {σ α : Type} (xfer : Prog Status σ (Rc × α)) (none : α) (n : Nat) :
    Prog Status σ (Rc × α) :=
  loop (fun _ => do
      let r ← xfer
      if r.1 = .success ∨ r.1 = .timeout then pure (.inr r) else pure (.inl r))
    pure n (.other, none)

def usbRead (len : Nat) : Prog Status Inp (List UInt8) :=
  loop (fun buf =>
      if buf.length < len then do
        let r ← retry (bulkIn (len - buf.length)) [] 3
        if r.1 ≠ .success ∨ r.2 = [] then fail .ioError else pure (.inl (buf ++ r.2))
      else pure (.inr buf))
    pure (len + 1) []

def usbWrite (buf : List UInt8) : Prog Status Outp Unit :=
  loop (fun sent =>
      if sent < buf.length then do
        let r ← retry (bulkOut (buf.drop sent)) 0 3
        if r.1 ≠ .success ∨ r.2 = 0 then fail .ioError else pure (.inl (sent + r.2))
      else pure (.inr ()))
    (fun _ => pure ()) (buf.length + 1) 0

def flushInput : Prog Status Inp Unit :=
  loop (fun _ => do
      let r ← bulkIn 4096
      if r.1 ≠ .success ∨ r.2 = [] then pure (.inr ()) else pure (.inl ()))
    pure 4096 ()

def sendFrame (cmd : Nat) (payload : List UInt8) : Prog Status Outp Unit := do
  modify fun o => { o with sent := o.sent ++ [⟨cmd, payload⟩] }
  if pantumSettingsLen < payload.length then fail .inval
  else usbWrite (HostFrame.encode ⟨cmd, payload⟩)

/-- The part of `recv_frame` behind the poll: the rest of the header and its checks. -/
def recvHeader (got : List UInt8) : Prog Status Inp Frame := do
  let rest ← usbRead (pantumHeaderLen - got.length)
  if getBe32 (got ++ rest) 0 ≠ pantumMagic then fail .ioError
  else if pantumMaxPayload < (Frame.ofHeader (got ++ rest)).plen then fail .ioError
  else pure (Frame.ofHeader (got ++ rest))

def recvFrame : Prog Status Inp Frame := recvHeader []

/-- `recv_frame` with `probe`: `none` reports an idle endpoint. -/
def recvFrameProbe : Prog Status Inp (Option Frame) := do
  let r ← bulkIn pantumHeaderLen
  if r.1 ≠ .success ∧ r.1 ≠ .timeout then fail .ioError
  else if r.2 = [] then pure none
  else some <$> recvHeader r.2

def drainPayload (plen : Nat) : Prog Status Inp Unit :=
  loop (fun left =>
      if left = 0 then pure (.inr ())
      else do
        let _ ← usbRead (min left 512)
        pure (.inl (left - min left 512)))
    (fun _ => pure ()) (plen + 1) plen

end PantumOpen.Scan
