import PantumOpen.Scan.Api

/-! The device list and the handle list of the backend, and the calls that work on them. -/

namespace PantumOpen.Scan
open Prog

/-- `Pantum_Id`. A model whose copy could not be allocated is `none`. -/
structure PantumId where
  vid : Nat
  pid : Nat
  model : Option CString

inductive UsbRc
  | success | access | busy | other
  deriving DecidableEq, Repr

/-- A device on the bus as libusb reports it, and how it will answer when it is opened. Its
descriptor may be unreadable. -/
structure UsbDevice where
  descriptor : Option (Nat × Nat)
  bus : Nat
  addr : Nat
  openRc : UsbRc
  claimRc : UsbRc
  inp : Inp
  outSched : List Xfer

/-- `Pantum_Device`. The number `id` stands for its address and is never given out again. -/
structure PantumDevice where
  id : Nat
  name : CString
  model : CString
  bus : Nat
  addr : Nat
  vid : Nat
  pid : Nat
  busy : Bool

/-- An open `Pantum_Handle`: its address, the address of its device, and everything else. -/
structure OpenHandle where
  id : Nat
  dev : Nat
  session : Session

/-- The global state. The lists are in the order of the linked ones, and `devicePtrs` holds the
devices that the array handed to a frontend points to. -/
structure Backend where
  initialised : Bool
  idList : List PantumId
  deviceList : List PantumDevice
  devicePtrs : Option (List Nat)
  handleList : List OpenHandle
  ditherReady : Bool
  allocs : List Bool
  next : Nat

namespace Backend

def loaded (allocs : List Bool) : Backend := ⟨false, [], [], none, [], false, allocs, 0⟩

def alloc : Prog Status Backend Bool := fun s =>
  match s.allocs with
  | [] => (.ok true, s)
  | b :: bs => (.ok b, { s with allocs := bs })

def pantumStrdup (s : Option CString) : Prog Status Backend (Option CString) :=
  match s with
  | none => pure none
  | some s => do
    if ← alloc then pure (some s) else pure none

def formatUnsigned3 (n : Nat) : CString :=
  List.replicate (3 - (Nat.toDigits 10 n).length) '0' ++ Nat.toDigits 10 n

def deviceName (bus addr : Nat) : CString :=
  "usb:".toList ++ formatUnsigned3 bus ++ ":".toList ++ formatUnsigned3 addr

/-- The entry of the id list that makes a device one of ours. -/
def matchingId (ids : List PantumId) (u : UsbDevice) : Option PantumId :=
  match u.descriptor with
  | none => none
  | some (vid, pid) => ids.find? fun id => id.vid == vid && id.pid == pid

def freeDevices (s : Backend) : Backend := { s with deviceList := [], devicePtrs := none }

def pushDevice (u : UsbDevice) (id : PantumId) (name model : CString) (s : Backend) : Backend :=
  { s with
    deviceList := ⟨s.next, name, model, u.bus, u.addr, id.vid, id.pid, false⟩ :: s.deviceList
    next := s.next + 1 }

/-- The loop of `probe_devices`; an allocation that fails ends it. -/
def addDevices : List UsbDevice → Prog Status Backend Unit
  | [] => pure ()
  | u :: us => do
    let s ← read
    match matchingId s.idList u with
    | none => addDevices us
    | some id =>
      if ← alloc then do
        let name ← pantumStrdup (some (deviceName u.bus u.addr))
        let model ← pantumStrdup id.model
        match name, model with
        | some name, some model => do
          modify (pushDevice u id name model)
          addDevices us
        | _, _ => pure ()
      else pure ()

/-- `probe_devices`; `devs` is what `libusb_get_device_list` returns, if it succeeds. -/
def probeDevices (devs : Option (List UsbDevice)) : Prog Status Backend Unit := do
  let s ← read
  if !s.handleList.isEmpty && s.devicePtrs.isSome then pure ()
  else do
    modify freeDevices
    match devs with
    | none => fail .ioError
    | some devs => do
      addDevices devs
      if ← alloc then
        modify fun s => { s with devicePtrs := some (s.deviceList.map PantumDevice.id) }
      else fail .noMem

/-- `sane_pantum_init`; `ids` is what `read_config` makes of the configuration files. -/
def saneInit (libusb : UsbRc) (ids : List PantumId) : Prog Status Backend Unit := do
  let s ← read
  if s.initialised then pure ()
  else do
    modify fun s =>
      { s with idList := [], deviceList := [], devicePtrs := none, handleList := [] }
    if libusb ≠ .success then fail .ioError
    else modify fun s => { s with idList := ids, initialised := true }

/-- `sane_pantum_get_devices`; `out` tells whether the frontend passed a place for the list. -/
def saneGetDevices (out : Bool) (devs : Option (List UsbDevice)) :
    Prog Status Backend (Option (List Nat)) := do
  let s ← read
  if !s.initialised then fail .inval
  else if !out then fail .inval
  else do
    probeDevices devs
    gets devicePtrs

/-- The device a frontend names; without a name it gets the first one. -/
def findDevice (s : Backend) (devicename : Option CString) : Option PantumDevice :=
  match devicename with
  | none => s.deviceList.head?
  | some name =>
    if name = [] then s.deviceList.head? else s.deviceList.find? fun d => d.name == name

def setBusy (dev : Nat) (busy : Bool) (s : Backend) : Backend :=
  { s with
    deviceList := s.deviceList.map fun d => if d.id = dev then { d with busy := busy } else d }

/-- `sane_pantum_open` from the `calloc` of the handle on. -/
def openHandle (dev : Nat) (u : UsbDevice) : Prog Status Backend Nat := do
  let s ← read
  let r := saneOpen (.fresh u.inp u.outSched s.allocs s.ditherReady)
  modify fun s => { s with allocs := r.2.host.allocs }
  match r.1 with
  | .error e => fail e
  | .ok _ => do
    modify (setBusy dev true)
    modify fun t =>
      { t with handleList := ⟨s.next, dev, r.2⟩ :: t.handleList, next := s.next + 1 }
    pure s.next

/-- `sane_pantum_open`; `probed` and `listed` are the two enumerations it may make. -/
def saneOpen (out : Bool) (devicename : Option CString) (probed listed : Option (List UsbDevice)) :
    Prog Status Backend Nat := do
  let s ← read
  if !s.initialised || !out then fail .inval
  else do
    if s.deviceList.isEmpty then probeDevices probed else pure ()
    let s ← read
    match s.findDevice devicename with
    | none => fail .inval
    | some d =>
      if d.busy then fail .deviceBusy
      else match listed with
      | none => fail .ioError
      | some devs =>
        match devs.find? fun u => u.bus == d.bus && u.addr == d.addr with
        | none => fail .ioError
        | some u =>
          if u.openRc ≠ .success then
            fail (if u.openRc = .access then .accessDenied else .ioError)
          else if u.claimRc ≠ .success then
            fail (if u.claimRc = .busy then .deviceBusy else .ioError)
          else openHandle d.id u

/-- `free_handle` on the lists; the session ends with `end_scan`, which works on the handle alone. -/
def saneClose (handle : Nat) : Prog Status Backend Unit := do
  let s ← read
  match s.handleList.find? fun h => h.id == handle with
  | none => pure ()
  | some h => do
    modify fun s => { s with handleList := s.handleList.eraseP fun h => h.id == handle }
    modify (setBusy h.dev false)

def saneExit : Prog Status Backend Unit := do
  let s ← read
  if !s.initialised then pure ()
  else modify fun s => { s.freeDevices with handleList := [], idList := [], initialised := false }

inductive Call
  | init (libusb : UsbRc) (ids : List PantumId)
  | getDevices (out : Bool) (devs : Option (List UsbDevice))
  | open (out : Bool) (devicename : Option CString) (probed listed : Option (List UsbDevice))
  | close (handle : Nat)
  | exit

def Call.run : Call → Prog Status Backend Unit
  | .init libusb ids => saneInit libusb ids
  | .getDevices out devs => ignore (saneGetDevices out devs)
  | .open out name probed listed => ignore (saneOpen out name probed listed)
  | .close handle => saneClose handle
  | .exit => saneExit

def runCalls (cs : List Call) (s : Backend) : Backend := cs.foldl (fun s c => (c.run s).2) s

end Backend
end PantumOpen.Scan
