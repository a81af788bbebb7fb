import PantumOpen.Scan.DeviceOwnership
import PantumOpen.Scan.HostProtocol
import PantumOpen.Scan.RowContent

/-! The backend as one process: a frontend with any number of open handles, each with a session of
its own, and the global state they share. -/

namespace PantumOpen.Scan
open Prog Monitor

inductive HandleCall
  | start
  | read (maxLength : Int)
  | cancel
  | controlOption (option : Int) (action : Action) (value : Option Value)
  | getParameters
  | setIoMode (nonBlocking : Bool)

def HandleCall.call : HandleCall → Call
  | .start => .start
  | .read n => .read n
  | .cancel => .cancel
  | .controlOption o a v => .controlOption o a v
  | .getParameters => .getParameters
  | .setIoMode b => .setIoMode b

/-- The answer for a pointer that is no open handle; `sane_cancel` returns nothing. -/
def HandleCall.refusal : HandleCall → Except Status Answer
  | .cancel => .ok .none
  | _ => .error .inval

/-- The global state, and the sessions of the handles that were closed. -/
structure Process where
  backend : Backend
  past : List Session

inductive ProcessAnswer
  | done
  | devices (ids : Option (List Nat))
  | handle (id : Nat)
  | answer (a : Answer)

namespace Backend

/-- A session as a call finds it: the allocator and the dither mask belong to the process. -/
def enter (b : Backend) (s : Session) : Session :=
  { s with host := { s.host with allocs := b.allocs, ditherReady := b.ditherReady } }

def leave (b : Backend) (id : Nat) (s : Session) : Backend :=
  { b with
    handleList := b.handleList.map fun h => if h.id = id then { h with session := s } else h
    allocs := s.host.allocs
    ditherReady := s.host.ditherReady }

/-- `handle_is_valid`, and the handle it found. -/
def lookup (b : Backend) (id : Nat) : Option OpenHandle := b.handleList.find? fun h => h.id == id

end Backend

namespace Process

def loaded (allocs : List Bool) : Process := ⟨.loaded allocs, []⟩

def backendLens : Lens Process Backend where
  get := Process.backend
  set b p := { p with backend := b }
  get_set _ _ := rfl
  set_get _ := rfl
  set_set _ _ _ := rfl

def onSession (env : Env) (id : Nat) (c : HandleCall) : Prog Status Process Answer := fun p =>
  match p.backend.lookup id with
  | none => (c.refusal, p)
  | some h =>
    let r := c.call.run env (p.backend.enter h.session)
    (r.1, { p with backend := p.backend.leave id r.2 })

def closeHandle (id : Nat) : Prog Status Process Unit := fun p =>
  match p.backend.lookup id with
  | none => (.ok (), p)
  | some h =>
    let s := (Scan.saneClose (p.backend.enter h.session)).2
    (.ok (), ⟨(Backend.saneClose id (p.backend.leave id s)).2, p.past ++ [s]⟩)

def closeAll : List Nat → Prog Status Process Unit
  | [] => pure ()
  | id :: ids => do
    closeHandle id
    closeAll ids

def exit : Prog Status Process Unit := do
  let p ← read
  if p.backend.initialised then closeAll (p.backend.handleList.map OpenHandle.id) else pure ()
  zoom backendLens Backend.saneExit

end Process

inductive ProcessCall
  | init (libusb : UsbRc) (ids : List PantumId)
  | getDevices (out : Bool) (devs : Option (List UsbDevice))
  | open (out : Bool) (devicename : Option CString) (probed listed : Option (List UsbDevice))
  | handle (id : Nat) (c : HandleCall)
  | close (id : Nat)
  | exit

def ProcessCall.run (env : Env) : ProcessCall → Prog Status Process ProcessAnswer
  | .init libusb ids => do
    zoom Process.backendLens (Backend.saneInit libusb ids)
    pure .done
  | .getDevices out devs => do
    let ids ← zoom Process.backendLens (Backend.saneGetDevices out devs)
    pure (.devices ids)
  | .open out name probed listed => do
    let id ← zoom Process.backendLens (Backend.saneOpen out name probed listed)
    pure (.handle id)
  | .handle id c => do
    let a ← Process.onSession env id c
    pure (.answer a)
  | .close id => do
    Process.closeHandle id
    pure .done
  | .exit => do
    Process.exit
    pure .done

def Process.runs (env : Env) : List ProcessCall → Process → List (Except Status ProcessAnswer) × Process
  | [], p => ([], p)
  | c :: cs, p =>
    let r := c.run env p
    let rs := runs env cs r.2
    (r.1 :: rs.1, rs.2)

namespace Backend
variable {s t u : Backend}

/-- The handles are the same, or one more was opened on a device of its own. -/
inductive Grown (s t : Backend) : Except Status Nat → Prop
  | same {e : Status} (hh : t.handleList = s.handleList) (hi : t.initialised = s.initialised)
      (hn : s.next ≤ t.next) : Grown s t (.error e)
  | opened {id dev : Nat} {inp : Inp} {outSched : List Xfer} {allocs : List Bool} {ready : Bool}
      {ss : Session} (hopen : Scan.saneOpen (.fresh inp outSched allocs ready) = (.ok (), ss))
      (hh : t.handleList = ⟨id, dev, ss⟩ :: s.handleList) (hi : t.initialised = true)
      (hlo : s.next ≤ id) (hhi : id < t.next) : Grown s t (.ok id)

theorem probeDevices_next (devs : Option (List UsbDevice)) (s : Backend) :
    wp (probeDevices devs) (fun _ t => t.handleList = s.handleList ∧ t.initialised = s.initialised ∧
      s.next ≤ t.next) s := by
  unfold probeDevices
  rw [wp_bind, wp_read, after_ok, wp_ite]
  refine ⟨fun _ => ⟨rfl, rfl, le_rfl⟩, fun _ => ?_⟩
  rw [wp_bind, wp_modify, after_ok]
  cases devs with
  | none => exact ⟨rfl, rfl, le_rfl⟩
  | some devs =>
    dsimp only
    rw [wp_bind]
    apply wp_mono (addDevices_added devs s.freeDevices)
    intro r t ht
    have hkept : t.handleList = s.handleList ∧ t.initialised = s.initialised ∧ s.next ≤ t.next :=
      ⟨ht.handleList, ht.initialised, ht.next⟩
    cases r with
    | error e => exact hkept
    | ok _ =>
      rw [after_ok, wp_bind]
      apply wp_mono (alloc_frame t)
      rintro _ _ ⟨⟨b, rfl⟩, as, rfl⟩
      rw [after_ok, wp_ite]
      exact ⟨fun _ => hkept, fun _ => hkept⟩

theorem openHandle_grown (hinit : s.initialised = true) (dev : Nat) (u : UsbDevice) :
    wp (openHandle dev u) (fun r t => Grown s t r) s := by
  unfold openHandle
  rw [wp_bind, wp_read, after_ok]
  rcases hopen : Scan.saneOpen (.fresh u.inp u.outSched s.allocs s.ditherReady) with ⟨r, ss⟩
  dsimp only
  rw [wp_bind, wp_modify, after_ok]
  cases r with
  | error e => exact .same rfl rfl le_rfl
  | ok _ =>
    dsimp only
    rw [wp_bind, wp_modify, after_ok, wp_bind, wp_modify, after_ok, wp_pure]
    exact .opened hopen rfl hinit le_rfl (Nat.lt_succ_self _)

theorem saneOpen_grown (out : Bool) (name : Option CString) (probed listed : Option (List UsbDevice))
    (s : Backend) : wp (saneOpen out name probed listed) (fun r t => Grown s t r) s := by
  unfold saneOpen
  rw [wp_bind, wp_read, after_ok, wp_ite]
  refine ⟨fun _ => .same rfl rfl le_rfl, fun hbad => ?_⟩
  have hinit : s.initialised = true := by
    by_contra h
    exact hbad (by simp [h])
  apply wp_ite_bind fun _ t => t.handleList = s.handleList ∧ t.initialised = s.initialised ∧
    s.next ≤ t.next
  · exact fun _ => probeDevices_next probed s
  · exact fun _ => ⟨rfl, rfl, le_rfl⟩
  rintro r t ⟨hh, hi, hn⟩
  have hstop (e : Status) : Grown s t (.error e) := .same hh hi hn
  cases r with
  | error e => exact hstop e
  | ok _ =>
    rw [after_ok, wp_bind, wp_read, after_ok]
    cases t.findDevice name with
    | none => exact hstop _
    | some d =>
      dsimp only
      rw [wp_ite]
      refine ⟨fun _ => hstop _, fun _ => ?_⟩
      cases listed with
      | none => exact hstop _
      | some devs =>
        dsimp only
        split
        · exact hstop _
        rw [wp_ite]
        refine ⟨fun _ => hstop _, fun _ => ?_⟩
        rw [wp_ite]
        refine ⟨fun _ => hstop _, fun _ => ?_⟩
        apply wp_mono (openHandle_grown (hi.trans hinit) d.id _)
        intro r u hu
        cases hu with
        | same hh' hi' hn' => exact .same (hh'.trans hh) (hi'.trans hi) (hn.trans hn')
        | opened hopen hh' hi' hlo hhi => exact .opened hopen (by rw [hh', hh]) hi' (hn.trans hlo) hhi

end Backend

section
variable {env : Env} {s t : Session}

/-- Whether the handle is open and what its descriptors say is no business of a job, and the frame
it works with is one that was computed. -/
theorem fixture_rule (v : Bool) (opt : Opt → Descriptor) :
    CallRule fun t => t.host.valid = v ∧ t.host.h.opt = opt ∧ t.host.h.params.Layout where
  calm {s t} h hu := by
    refine ⟨hu.valid.trans h.1, hu.opt.trans h.2.1, ?_⟩
    obtain hp | hp := hu.params
    · rw [hp]
      exact h.2.2
    · rw [hp]
      exact s.host.h.val.computeParameters_layout
  frame h _ hf :=
    ⟨hf.params.1.trans h.1, (hf.jobStep.handle.get Handle.opt).trans h.2.1, hf.params.2 ▸ h.2.2⟩
  abandoned h ha := by
    rw [ha.host]
    exact h
  begun {s} h _ := by
    apply wp_mono (beginJob_spec s)
    intro r t ht
    cases r with
    | error e =>
      rw [ht.1]
      exact h
    | ok _ =>
      rw [ht.1]
      exact h
  ended {s} h := by
    apply wp_mono (endScan_spec s)
    rintro _ t ⟨-, hh, -⟩
    rw [hh]
    exact h

structure Session.Live (s : Session) : Prop where
  valid : s.host.valid = true
  disciplined : s.Disciplined
  conforms : s.Conforms
  layout : s.host.h.params.Layout

structure Session.Over (s : Session) : Prop where
  scanning : s.host.h.scanning = false
  disciplined : s.Disciplined
  conforms : s.Conforms

theorem Session.Live.enter (hs : s.Live) (b : Backend) : (b.enter s).Live where
  valid := hs.valid
  disciplined := ⟨hs.disciplined.steady, hs.disciplined.sent, hs.disciplined.closed,
    hs.disciplined.params⟩
  conforms := hs.conforms.congr rfl rfl rfl
  layout := hs.layout

theorem HandleCall.run_fixture (c : HandleCall) (hs : s.Live) :
    wp (c.call.run env) (fun _ t => t.host.valid = true ∧ t.host.h.params.Layout ∧
      ((∀ o a v, c ≠ .controlOption o a v) → t.host.h.opt = s.host.h.opt)) s := by
  have hrule := fixture_rule true s.host.h.opt
  have hbase := And.intro hs.valid (And.intro (Eq.refl s.host.h.opt) hs.layout)
  have hweak {m : Prog Status Session Answer} (hm : wp m (fun _ t => t.host.valid = true ∧
      t.host.h.opt = s.host.h.opt ∧ t.host.h.params.Layout) s) :
      wp m (fun _ t => t.host.valid = true ∧ t.host.h.params.Layout ∧
        ((∀ o a v, c ≠ .controlOption o a v) → t.host.h.opt = s.host.h.opt)) s :=
    wp_mono hm fun _ _ ht => ⟨ht.1, ht.2.2, fun _ => ht.2.1⟩
  cases c with
  | start => exact hweak (wp_bind_pure (hrule.saneStart hbase hs.disciplined))
  | read n => exact hweak (wp_bind_pure (hrule.saneRead n hbase))
  | cancel => exact hweak (wp_bind_pure (hrule.saneCancel hbase))
  | controlOption o a v =>
    apply wp_bind_pure
    rw [onHost, wp_zoom]
    apply wp_mono (saneControlOption_spec o a v s.host)
    intro r t ht
    refine ⟨ht.valid.trans hs.valid, ?_, fun h => absurd rfl (h o a v)⟩
    change t.h.params.Layout
    rw [ht.job]
    exact hs.layout
  | getParameters => exact hweak (wp_bind_pure (hrule.saneGetParameters hbase))
  | setIoMode b => exact hweak (wp_bind_pure (hrule.saneSetIoMode b hbase))

theorem HandleCall.run_live (c : HandleCall) (hs : s.Live) :
    wp (c.call.run env) (fun _ t => t.Live) s := by
  apply wp_mono (wp_and (c.run_fixture hs) (wp_and (c.call.run_disciplined env hs.disciplined)
    (c.call.run_conforms hs.conforms hs.disciplined)))
  rintro r t ⟨⟨hv, hl, -⟩, hd, hc⟩
  exact ⟨hv, hd.disciplined, hc, hl⟩

theorem saneClose_over (hs : s.Live) : wp Scan.saneClose (fun _ t => t.Over) s := by
  apply wp_mono (wp_and (saneClose_disciplined hs.disciplined) (saneClose_conforms hs.conforms))
  rintro r t ⟨⟨hd, hscan⟩, hc⟩
  exact ⟨hscan, hd, hc⟩

theorem saneOpen_valid (s : Session) :
    wp Scan.saneOpen (fun r t => r = .ok () → t.host.valid = true ∧ t.host.h.params.Layout) s := by
  unfold Scan.saneOpen
  rw [wp_bind, onHost, wp_zoom]
  apply wp_mono (alloc_spec s.host)
  rintro _ t ⟨b, rfl, -⟩
  rw [after_ok, wp_ite]
  refine ⟨fun _ => ?_, fun _ h => by cases h⟩
  rw [wp_bind, wp_modify, after_ok, wp_bind]
  apply wp_onInp
  intro r i
  cases r with
  | error _ => exact fun h => by cases h
  | ok _ =>
    rw [after_ok, wp_bind]
    apply wp_mono (wp_outcome _ _)
    intro r v _
    cases r with
    | error _ => exact fun h => by cases h
    | ok _ =>
      rw [after_ok, wp_bind, onHost, wp_zoom]
      apply wp_mono (initOptions_spec v.host)
      intro r w _
      cases r with
      | error _ => exact fun h => by cases h
      | ok _ =>
        rw [after_ok, wp_bind, wp_setHandle, after_ok, wp_modify]
        exact fun _ => ⟨rfl, OptionValues.computeParameters_layout _⟩

theorem saneOpen_live {inp : Inp} {outSched : List Xfer} {allocs : List Bool} {ready : Bool}
    (h : Scan.saneOpen (.fresh inp outSched allocs ready) = (.ok (), s)) : s.Live := by
  have hfresh : (Session.fresh inp outSched allocs ready).Phased .unlocked :=
    ⟨rfl, by simp [Session.fresh, Handle.zero]⟩
  have hopen := wp_and (saneOpen_valid (.fresh inp outSched allocs ready)) (wp_and
    (saneOpen_disciplined (s := .fresh inp outSched allocs ready) rfl rfl rfl)
    (saneOpen_conforms hfresh rfl))
  unfold wp at hopen
  rw [h] at hopen
  exact ⟨(hopen.1 rfl).1, hopen.2.1, hopen.2.2, (hopen.1 rfl).2⟩

end

/-! ### The process -/

namespace Process
variable {env : Env} {p q : Process}

structure Orderly (p : Process) : Prop where
  ids : (p.backend.handleList.map OpenHandle.id).Nodup
  fresh : ∀ h ∈ p.backend.handleList, h.id < p.backend.next
  closed : p.backend.initialised = false → p.backend.handleList = []
  live : ∀ h ∈ p.backend.handleList, h.session.Live
  ended : ∀ s ∈ p.past, s.Over

def opened (p : Process) : Nat := p.past.length + p.backend.handleList.length

theorem loaded_orderly (allocs : List Bool) : (loaded allocs).Orderly where
  ids := List.nodup_nil
  fresh _ h := absurd h List.not_mem_nil
  closed _ := rfl
  live _ h := absurd h List.not_mem_nil
  ended _ h := absurd h List.not_mem_nil

theorem Orderly.grown (hp : p.Orderly) {r : Except Status Nat} {b : Backend}
    (h : Backend.Grown p.backend b r) : Orderly { p with backend := b } := by
  cases h with
  | same hh hi hn =>
    refine ⟨?_, fun x hx => ?_, fun hc => ?_, fun x hx => ?_, hp.ended⟩
    · exact (congrArg (fun l => (l.map OpenHandle.id).Nodup) hh).mpr hp.ids
    · exact (hp.fresh x (hh ▸ hx)).trans_le hn
    · exact hh.trans (hp.closed (hi.symm.trans hc))
    · exact hp.live x (hh ▸ hx)
  | @opened id dev _ _ _ _ ss hopen hh hi hlo hhi =>
    refine ⟨?_, fun x hx => ?_, fun hc => ?_, fun x hx => ?_, hp.ended⟩
    · change (b.handleList.map OpenHandle.id).Nodup
      rw [hh, List.map_cons, List.nodup_cons]
      refine ⟨fun hmem => ?_, hp.ids⟩
      obtain ⟨x, hx, hxid⟩ := List.mem_map.mp hmem
      have hid : x.id < p.backend.next := hp.fresh x hx
      rw [hxid] at hid
      exact absurd hlo (not_le.mpr hid)
    · have hx : x ∈ ⟨id, dev, ss⟩ :: p.backend.handleList := hh ▸ hx
      rcases List.mem_cons.mp hx with rfl | hx
      · exact hhi
      · exact ((hp.fresh x hx).trans_le hlo).trans hhi
    · have hc : b.initialised = false := hc
      rw [hi] at hc
      cases hc
    · have hx : x ∈ ⟨id, dev, ss⟩ :: p.backend.handleList := hh ▸ hx
      rcases List.mem_cons.mp hx with rfl | hx
      · exact saneOpen_live hopen
      · exact hp.live x hx

theorem Orderly.kept (hp : p.Orderly) {b : Backend} (hh : b.handleList = p.backend.handleList)
    (hi : b.initialised = p.backend.initialised) (hn : p.backend.next ≤ b.next) :
    Orderly { p with backend := b } := hp.grown (r := .error .inval) (.same hh hi hn)

theorem lookup_mem {b : Backend} {id : Nat} {h : OpenHandle} (hl : b.lookup id = some h) :
    h ∈ b.handleList ∧ h.id = id :=
  ⟨List.mem_of_find?_eq_some hl, by simpa using List.find?_some hl⟩

theorem leave_ids (b : Backend) (id : Nat) (s : Session) :
    (b.leave id s).handleList.map OpenHandle.id = b.handleList.map OpenHandle.id := by
  unfold Backend.leave
  rw [List.map_map]
  apply List.map_congr_left
  intro x _
  rw [Function.comp_apply]
  split <;> rfl

theorem mem_leave {b : Backend} {id : Nat} {s : Session} {x : OpenHandle}
    (hx : x ∈ (b.leave id s).handleList) :
    (x.id = id ∧ x.session = s) ∨ (x.id ≠ id ∧ x ∈ b.handleList) := by
  obtain ⟨y, hy, hyx⟩ := List.mem_map.mp hx
  by_cases hid : y.id = id
  · rw [if_pos hid] at hyx
    rw [← hyx]
    exact .inl ⟨hid, rfl⟩
  · rw [if_neg hid] at hyx
    rw [← hyx]
    exact .inr ⟨hid, hy⟩

theorem fresh_leave (hp : p.Orderly) (id : Nat) (s : Session) :
    ∀ x ∈ (p.backend.leave id s).handleList, x.id < p.backend.next := by
  intro x hx
  have hmem : x.id ∈ (p.backend.leave id s).handleList.map OpenHandle.id := List.mem_map_of_mem hx
  rw [leave_ids] at hmem
  obtain ⟨y, hy, hyx⟩ := List.mem_map.mp hmem
  rw [← hyx]
  exact hp.fresh y hy

theorem onSession_gone {id : Nat} (hl : p.backend.lookup id = none) (c : HandleCall) :
    onSession env id c p = (c.refusal, p) := by
  unfold onSession
  rw [hl]

theorem onSession_found {id : Nat} {h : OpenHandle} (hl : p.backend.lookup id = some h)
    (c : HandleCall) : onSession env id c p =
      ((c.call.run env (p.backend.enter h.session)).1,
        { p with backend := p.backend.leave id (c.call.run env (p.backend.enter h.session)).2 }) := by
  unfold onSession
  rw [hl]

theorem closeHandle_gone {id : Nat} (hl : p.backend.lookup id = none) :
    closeHandle id p = (.ok (), p) := by
  unfold closeHandle
  rw [hl]

theorem closeHandle_found {id : Nat} {h : OpenHandle} (hl : p.backend.lookup id = some h) :
    closeHandle id p = (.ok (),
      ⟨(Backend.saneClose id
          (p.backend.leave id (Scan.saneClose (p.backend.enter h.session)).2)).2,
        p.past ++ [(Scan.saneClose (p.backend.enter h.session)).2]⟩) := by
  unfold closeHandle
  rw [hl]

theorem onSession_orderly (hp : p.Orderly) (id : Nat) (c : HandleCall) :
    wp (onSession env id c) (fun _ q => q.Orderly ∧ q.opened = p.opened) p := by
  cases hl : p.backend.lookup id with
  | none =>
    unfold wp
    rw [onSession_gone hl]
    exact ⟨hp, rfl⟩
  | some h =>
    obtain ⟨hmem, hid⟩ := lookup_mem hl
    have hlive : (c.call.run env (p.backend.enter h.session)).2.Live :=
      c.run_live ((hp.live h hmem).enter p.backend)
    unfold wp
    rw [onSession_found hl]
    generalize (c.call.run env (p.backend.enter h.session)).2 = s at hlive
    refine ⟨⟨?_, fresh_leave hp id s, fun hc => ?_, fun x hx => ?_, hp.ended⟩, ?_⟩
    · change ((p.backend.leave id s).handleList.map OpenHandle.id).Nodup
      rw [leave_ids]
      exact hp.ids
    · have hnil : p.backend.handleList = [] := hp.closed hc
      rw [hnil] at hmem
      cases hmem
    · obtain ⟨-, hx⟩ | ⟨-, hx⟩ := mem_leave hx
      · rw [hx]
        exact hlive
      · exact hp.live x hx
    · change p.past.length + (p.backend.leave id s).handleList.length = _
      unfold Backend.leave
      rw [List.length_map]
      rfl

theorem saneClose_lists {b : Backend} {id : Nat} {h : OpenHandle} (hl : b.lookup id = some h) :
    (Backend.saneClose id b).2.handleList = b.handleList.eraseP (fun h => h.id == id) ∧
    (Backend.saneClose id b).2.initialised = b.initialised ∧
    (Backend.saneClose id b).2.next = b.next := by
  have hclose : wp (Backend.saneClose id) (fun _ t =>
      t.handleList = b.handleList.eraseP (fun h => h.id == id) ∧ t.initialised = b.initialised ∧
      t.next = b.next) b := by
    unfold Backend.saneClose
    rw [wp_bind, wp_read, after_ok]
    unfold Backend.lookup at hl
    rw [hl]
    exact ⟨rfl, rfl, rfl⟩
  exact hclose

theorem lookup_leave {b : Backend} {id : Nat} {h : OpenHandle} (hl : b.lookup id = some h)
    (s : Session) : (b.leave id s).lookup id = some { h with session := s } := by
  unfold Backend.lookup at hl ⊢
  unfold Backend.leave
  rw [List.find?_map]
  have hpred : ((fun h : OpenHandle => h.id == id) ∘ fun h : OpenHandle =>
      if h.id = id then { h with session := s } else h) = fun h => h.id == id := by
    funext x
    rw [Function.comp_apply]
    split <;> rfl
  rw [hpred, hl, Option.map_some, if_pos (by simpa using List.find?_some hl)]

theorem eraseP_ids (l : List OpenHandle) (id : Nat) :
    (l.eraseP fun h => h.id == id).map OpenHandle.id = (l.map OpenHandle.id).erase id := by
  induction l with
  | nil => rfl
  | cons x l ih =>
    rw [List.eraseP_cons, List.map_cons, List.erase_cons]
    cases hx : x.id == id with
    | true => rfl
    | false => exact congrArg (x.id :: ·) ih

theorem lookup_none {b : Backend} {id : Nat} (hl : b.lookup id = none) :
    id ∉ b.handleList.map OpenHandle.id := by
  intro hmem
  obtain ⟨x, hx, hxid⟩ := List.mem_map.mp hmem
  have hnone := List.find?_eq_none.mp hl x hx
  exact hnone (by simpa using hxid)

theorem closed_ids {b : Backend} {id : Nat} {h : OpenHandle} (hl : b.lookup id = some h) (s : Session) :
    (Backend.saneClose id (b.leave id s)).2.handleList.map OpenHandle.id =
      (b.handleList.map OpenHandle.id).erase id := by
  rw [(saneClose_lists (lookup_leave hl s)).1, eraseP_ids, leave_ids]

theorem Orderly.closed_ne (hp : p.Orderly) {id : Nat} {h x : OpenHandle}
    (hl : p.backend.lookup id = some h) (s : Session)
    (hx : x ∈ (Backend.saneClose id (p.backend.leave id s)).2.handleList) : x.id ≠ id := by
  have hmem := List.mem_map_of_mem (f := OpenHandle.id) hx
  rw [closed_ids hl, hp.ids.mem_erase_iff] at hmem
  exact hmem.1

theorem closeHandle_orderly (hp : p.Orderly) (id : Nat) :
    wp (closeHandle id) (fun r q => r = .ok () ∧ q.Orderly ∧ q.opened = p.opened ∧
      q.backend.initialised = p.backend.initialised ∧
      q.backend.handleList.map OpenHandle.id = (p.backend.handleList.map OpenHandle.id).erase id) p := by
  cases hl : p.backend.lookup id with
  | none =>
    unfold wp
    rw [closeHandle_gone hl]
    exact ⟨rfl, hp, rfl, rfl, (List.erase_of_not_mem (lookup_none hl)).symm⟩
  | some h =>
    obtain ⟨hmem, hid⟩ := lookup_mem hl
    have hover : (Scan.saneClose (p.backend.enter h.session)).2.Over :=
      saneClose_over ((hp.live h hmem).enter p.backend)
    unfold wp
    rw [closeHandle_found hl]
    generalize (Scan.saneClose (p.backend.enter h.session)).2 = s at hover
    obtain ⟨hh, hi, hn⟩ := saneClose_lists (lookup_leave hl s)
    have hlist := closed_ids hl s
    have hsub {x : OpenHandle} (hx : x ∈ (Backend.saneClose id (p.backend.leave id s)).2.handleList) :
        x ∈ (p.backend.leave id s).handleList := by
      rw [hh] at hx
      exact List.mem_of_mem_eraseP hx
    -- The closed handle leaves the list and joins the past, so none is lost.
    refine ⟨rfl, ⟨?_, fun x hx => ?_, fun hc => ?_, fun x hx => ?_, fun t ht => ?_⟩, ?_, hi, hlist⟩
    · change ((Backend.saneClose id (p.backend.leave id s)).2.handleList.map OpenHandle.id).Nodup
      rw [hlist]
      exact hp.ids.erase id
    · change x.id < (Backend.saneClose id (p.backend.leave id s)).2.next
      rw [hn]
      exact fresh_leave hp id s x (hsub hx)
    · have hnil : p.backend.handleList = [] := hp.closed (hi.symm.trans hc)
      rw [hnil] at hmem
      cases hmem
    · obtain ⟨hxid, -⟩ | ⟨-, hx'⟩ := mem_leave (hsub hx)
      · exact absurd hxid (hp.closed_ne hl s hx)
      · exact hp.live x hx'
    · rcases List.mem_append.mp ht with ht | ht
      · exact hp.ended t ht
      · rw [List.mem_singleton.mp ht]
        exact hover
    · have hlen := congrArg List.length hlist
      have hin : id ∈ p.backend.handleList.map OpenHandle.id := hid ▸ List.mem_map_of_mem hmem
      rw [List.length_map, List.length_erase_of_mem hin, List.length_map] at hlen
      have hpos : 0 < p.backend.handleList.length := List.length_pos_of_mem hmem
      unfold opened
      dsimp only
      rw [hlen, List.length_append, List.length_singleton]
      omega

theorem closeAll_orderly (ids : List Nat) (hp : p.Orderly)
    (hids : ids = p.backend.handleList.map OpenHandle.id) :
    wp (closeAll ids) (fun r q => r = .ok () ∧ q.Orderly ∧ q.opened = p.opened ∧
      q.backend.initialised = p.backend.initialised ∧ q.backend.handleList = []) p := by
  induction ids generalizing p with
  | nil => exact ⟨rfl, hp, rfl, rfl, List.map_eq_nil_iff.mp hids.symm⟩
  | cons id ids ih =>
    rw [closeAll, wp_bind]
    apply wp_mono (closeHandle_orderly hp id)
    rintro _ q ⟨rfl, hq, ho, hi, hlist⟩
    rw [after_ok]
    rw [← hids, List.erase_cons_head] at hlist
    apply wp_mono (ih hq hlist.symm)
    rintro _ u ⟨rfl, hu, hou, hiu, hnil⟩
    exact ⟨rfl, hu, hou.trans ho, hiu.trans hi, hnil⟩

theorem exit_orderly (hp : p.Orderly) :
    wp exit (fun _ q => q.Orderly ∧ q.opened = p.opened ∧ q.backend.handleList = []) p := by
  unfold exit
  rw [wp_bind, wp_read, after_ok]
  have hleave {q : Process} (hq : q.Orderly) (hnil : q.backend.handleList = []) :
      wp (zoom backendLens Backend.saneExit) (fun _ u => u.Orderly ∧ u.opened = q.opened ∧
        u.backend.handleList = []) q := by
    rw [wp_zoom]
    unfold Backend.saneExit
    rw [wp_bind, wp_read, after_ok, wp_ite]
    refine ⟨fun _ => ⟨hq, rfl, hnil⟩, fun _ => ?_⟩
    rw [wp_modify]
    refine ⟨⟨List.nodup_nil, fun _ h => absurd h List.not_mem_nil, fun _ => rfl,
      fun _ h => absurd h List.not_mem_nil, hq.ended⟩, ?_, rfl⟩
    change q.past.length + 0 = q.past.length + q.backend.handleList.length
    rw [hnil]
    rfl
  apply wp_ite_bind fun r q => r = .ok () ∧ q.Orderly ∧ q.opened = p.opened ∧
    q.backend.handleList = []
  · intro _
    apply wp_mono (closeAll_orderly _ hp rfl)
    rintro _ q ⟨rfl, hq, ho, -, hnil⟩
    exact ⟨rfl, hq, ho, hnil⟩
  · exact fun hinit => ⟨rfl, hp, rfl, hp.closed (Bool.eq_false_of_not_eq_true hinit)⟩
  rintro _ q ⟨rfl, hq, ho, hnil⟩
  rw [after_ok]
  apply wp_mono (hleave hq hnil)
  rintro _ u ⟨hu, hou, hnilu⟩
  exact ⟨hu, hou.trans ho, hnilu⟩

def opens : Except Status ProcessAnswer → Nat
  | .ok (.handle _) => 1
  | _ => 0

theorem call_orderly (c : ProcessCall) (hp : p.Orderly) :
    wp (c.run env) (fun r q => q.Orderly ∧ q.opened = p.opened + opens r) p := by
  cases c with
  | init libusb ids =>
    rw [ProcessCall.run, wp_bind, wp_zoom]
    unfold Backend.saneInit
    rw [wp_bind, wp_read, after_ok, wp_ite]
    refine ⟨fun _ => ⟨hp, rfl⟩, fun hinit => ?_⟩
    -- Before sane_init no handle is open, so emptying the list loses none.
    have hnil : p.backend.handleList = [] := hp.closed (Bool.eq_false_of_not_eq_true hinit)
    rw [wp_bind, wp_modify, after_ok, wp_ite]
    refine ⟨fun _ => ⟨hp.kept hnil.symm rfl le_rfl, ?_⟩, fun _ => ⟨?_, ?_⟩⟩
    · change p.past.length + 0 = p.past.length + p.backend.handleList.length
      rw [hnil]
      rfl
    · exact ⟨List.nodup_nil, fun _ h => absurd h List.not_mem_nil, fun _ => rfl,
        fun _ h => absurd h List.not_mem_nil, hp.ended⟩
    · change p.past.length + 0 = p.past.length + p.backend.handleList.length
      rw [hnil]
      rfl
  | getDevices out devs =>
    rw [ProcessCall.run, wp_bind, wp_zoom]
    unfold Backend.saneGetDevices
    rw [wp_bind, wp_read, after_ok, wp_ite]
    refine ⟨fun _ => ⟨hp, rfl⟩, fun _ => ?_⟩
    rw [wp_ite]
    refine ⟨fun _ => ⟨hp, rfl⟩, fun _ => ?_⟩
    rw [wp_bind]
    apply wp_mono (Backend.probeDevices_next devs p.backend)
    rintro r b ⟨hh, hi, hn⟩
    have hkept : Orderly { p with backend := b } ∧
        opened { p with backend := b } = p.opened :=
      ⟨hp.kept hh hi hn, congrArg (p.past.length + ·.length) hh⟩
    cases r <;> exact hkept
  | «open» out name probed listed =>
    rw [ProcessCall.run, wp_bind, wp_zoom]
    apply wp_mono (Backend.saneOpen_grown out name probed listed p.backend)
    intro r b hb
    have hq : Orderly { p with backend := b } := hp.grown hb
    cases hb with
    | same hh hi hn => exact ⟨hq, congrArg (p.past.length + ·.length) hh⟩
    | opened _ hh _ _ _ => exact ⟨hq, congrArg (p.past.length + ·.length) hh⟩
  | handle id c =>
    rw [ProcessCall.run, wp_bind]
    apply wp_mono (onSession_orderly hp id c)
    rintro r q ⟨hq, ho⟩
    cases r <;> exact ⟨hq, ho⟩
  | close id =>
    rw [ProcessCall.run, wp_bind]
    apply wp_mono (closeHandle_orderly hp id)
    rintro _ q ⟨rfl, hq, ho, -⟩
    exact ⟨hq, ho⟩
  | exit =>
    rw [ProcessCall.run, wp_bind]
    apply wp_mono (exit_orderly hp)
    rintro r q ⟨hq, ho, -⟩
    cases r <;> exact ⟨hq, ho⟩

theorem runs_orderly (cs : List ProcessCall) (hp : p.Orderly) :
    (runs env cs p).2.Orderly ∧ (runs env cs p).2.opened =
      p.opened + ((runs env cs p).1.map opens).sum := by
  induction cs generalizing p with
  | nil => exact ⟨hp, rfl⟩
  | cons c cs ih =>
    obtain ⟨hq, ho⟩ := @call_orderly env p c hp
    obtain ⟨hu, hou⟩ := ih hq
    refine ⟨hu, ?_⟩
    change (runs env cs (c.run env p).2).2.opened =
      p.opened + (((c.run env p).1 :: (runs env cs (c.run env p).2).1).map opens).sum
    rw [hou, ho, List.map_cons, List.sum_cons, Nat.add_assoc]

end Process

end PantumOpen.Scan
