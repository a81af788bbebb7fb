import PantumOpen.Lib.Bytes

/-! Constants of the ASP frame protocol, the SANE status codes and the frame header. -/

namespace PantumOpen.Scan
open Bytes

def pantumMagic : Nat := 0x41535001
def pantumHeaderLen : Nat := 32
def pantumSettingsLen : Nat := 100
def pantumSettingsWords : Nat := pantumSettingsLen / 4
def pantumDataHeaderLen : Nat := 24
def pantumMaxPayload : Nat := 64 * 1024 * 1024

/-! Host to device. -/
def cmdLock : Nat := 0x00
def cmdUnlock : Nat := 0x01
def cmdStart : Nat := 0x02
def cmdAbort : Nat := 0x03
def cmdGetSettings : Nat := 0x06
def cmdSetSettings : Nat := 0x07
def cmdSetDefaults : Nat := 0x08
def cmdAdfStatus : Nat := 0x0f

/-! Device to host. -/
def evtAborted : Nat := 0x04
def evtData : Nat := 0x05
def evtSettings : Nat := 0x09
def evtJobEnd : Nat := 0x0c
def evtPageEnd : Nat := 0x0e

/-! Word offsets into the job settings block. -/
def setResolution : Nat := 3
def setZero : Nat := 13
def setSource : Nat := 14
def setTop : Nat := 16
def setLeft : Nat := 17
def setBottom : Nat := 18
def setRight : Nat := 19
def setColour : Nat := 24

def sourceFlatbed : Nat := 0x100
def sourceAdf : Nat := 0x200
def sourceAdfDuplex : Nat := 0x400

def pantumMaxX : Int := 850
def pantumMaxY : Int := 1169
def pantumMaxYAdf : Int := 1400
def pantumMinWindow : Int := 15

def dataJpeg : Nat := 0x0f

def commandMaxSkip : Nat := 4

inductive Status
  | good | unsupported | cancelled | deviceBusy | inval | eof | jammed | noDocs | coverOpen
  | ioError | noMem | accessDenied
  deriving DecidableEq, Repr

def mapStatus (status : Nat) : Status :=
  match status with
  | 0 => .good
  | 2 => .deviceBusy
  | 5 => .noDocs
  | 6 => .jammed
  | 7 => .jammed
  | 8 => .coverOpen
  | _ => .ioError

/-- The 32-byte frame header, unpacked. -/
structure Frame where
  cmd : Nat
  arg0 : Nat
  status : Nat
  plen : Nat
  deriving DecidableEq, Repr

structure HostFrame where
  cmd : Nat
  payload : List UInt8
  deriving DecidableEq, Repr

def HostFrame.encode (f : HostFrame) : List UInt8 :=
  putBe32 pantumMagic ++ putBe32 f.cmd ++ List.replicate 12 0 ++ putBe32 f.payload.length ++
    List.replicate 8 0 ++ f.payload

/-- The fields of a header, wherever its magic and length checks are made. -/
def Frame.ofHeader (buf : List UInt8) : Frame where
  cmd := getBe32 buf 4
  arg0 := getBe32 buf 8
  status := getBe32 buf 16
  plen := getBe32 buf 20

theorem mapStatus_ne_good {status : Nat} (h : status ≠ 0) : mapStatus status ≠ .good := by
  unfold mapStatus
  split <;> first | exact absurd rfl h | decide

end PantumOpen.Scan
