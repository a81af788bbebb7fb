import PantumOpen.Scan.JobIsolation
import PantumOpen.Scan.Process

/-! Handles are independent: with memory to spare, what a handle answers and what its device is sent
do not depend on the other handles of the process. -/

namespace PantumOpen.Scan
open Prog

variable {env : Env} {b : Outp} {s t : Session}

/-- The handle of a process, and a session of its own that has come as far. -/
structure Session.Solo (b : Outp) (s t : Session) : Prop where
  twin : Session.Twin False b b s t
  opt : t.host.h.opt = s.host.h.opt

theorem Session.Live.solo (hs : s.Live) (hroom : false ∉ s.host.allocs) : s.Solo s.outp s where
  twin := ⟨⟨rfl, hs.disciplined.steady.queue, hs.disciplined.steady.queue, rfl, False.elim, hs.layout⟩,
    rfl, ⟨hroom, hroom⟩, rfl, .refl rfl⟩
  opt := rfl

structure Host.Solo (s t : Host) : Prop where
  along : Host.Along (Handle.Twin False) s t
  opt : t.h.opt = s.h.opt

structure OptionsFrom (f : Handle → Handle) : Prop where
  job : ∀ h, SameJob h (f h)
  val : ∀ {h h'}, h'.val = h.val → h'.opt = h.opt → (f h').val = (f h).val
  opt : ∀ {h h'}, h'.val = h.val → h'.opt = h.opt → (f h').opt = (f h).opt

theorem Host.Solo.update {s t : Host} {f : Handle → Handle} (hs : s.Solo t) (hf : OptionsFrom f) :
    Host.Solo (s.onHandle f) (t.onHandle f) := by
  have hval : t.h.val = s.h.val := hs.along.handle.get Handle.val
  have hstore : f t.h = { t.h with val := (f s.h).val, opt := (f s.h).opt } := by
    rw [← hf.val hval hs.opt, ← hf.opt hval hs.opt]
    exact hf.job t.h
  have htwin := hs.along.handle.update
    (f := fun h => { h with val := (f s.h).val, opt := (f s.h).opt }) (by constructor <;> intros <;> rfl)
  refine ⟨⟨?_, hs.along.valid, hs.along.allocs⟩, hf.opt hval hs.opt⟩
  change (f s.h).Twin False (f t.h)
  rw [hstore]
  exact (hf.job s.h).symm ▸ htwin

theorem sim_alloc : Sim Host.Solo Host.Solo (fun a a' => a = true ∧ a' = true) alloc alloc := by
  intro s t hs
  have hroom {u : Host} (hu : false ∉ u.allocs) :
      ∃ as, alloc u = (.ok true, { u with allocs := as }) ∧ false ∉ as := by
    rcases u with ⟨h, v, _ | ⟨c, as⟩, d⟩
    · exact ⟨[], rfl, hu⟩
    · obtain ⟨hc, has⟩ := not_or.mp fun h => hu (List.mem_cons.mpr h)
      rw [eq_true_of_ne_false fun h => hc h.symm]
      exact ⟨as, rfl, has⟩
  obtain ⟨as, hs', ha⟩ := hroom hs.along.allocs.1
  obtain ⟨as', ht', ha'⟩ := hroom hs.along.allocs.2
  rw [hs', ht']
  exact ⟨⟨rfl, rfl⟩, ⟨hs.along.handle, hs.along.valid, ha, ha'⟩, hs.opt⟩

/-- The descriptors `update_option_state` leaves behind. -/
def OptionValues.tuned (v : OptionValues) (opt : Opt → Descriptor) : Opt → Descriptor :=
  (updateOptionState { Handle.zero with val := v, opt := opt }).opt

theorem updateOptionState_from {f : Handle → Handle} (hf : OptionsFrom f) :
    OptionsFrom fun h => updateOptionState (f h) where
  job h := (hf.job h).trans (updateOptionState_sameJob (f h))
  val hv ho := by
    rw [updateOptionState_val, updateOptionState_val, hf.val hv ho]
  opt {h h'} hv ho := by
    have htuned (g : Handle) : (updateOptionState g).opt = g.val.tuned g.opt := by
      unfold OptionValues.tuned updateOptionState
      rw [apply_ite Handle.opt, ite_self, apply_ite Handle.opt, ite_self]
      rfl
    rw [htuned, htuned, hf.val hv ho, hf.opt hv ho]

theorem sim_setString {β : Type} (name : β → CString) (list : List β)
    {put : Option β → Handle → Handle} (hput : ∀ a, OptionsFrom (put a)) (value : Value) :
    Sim Host.Solo Host.Solo Eq (setString name list put value) (setString name list put value) := by
  unfold setString
  cases list.find? fun a => strcasecmp (name a) value.str with
  | none => exact sim_fail _
  | some a =>
    apply sim_bind sim_alloc
    rintro _ _ ⟨rfl, rfl⟩
    rw [if_pos rfl]
    exact sim_bind_eq (sim_modify fun s t hs => hs.update (updateOptionState_from (hput (some a))))
      fun _ => sim_pure rfl

theorem sim_saneControlOption (option : Int) (action : Action) (value : Option Value) :
    Sim Host.Solo Host.Solo Eq (saneControlOption option action value)
      (saneControlOption option action value) := by
  have hmode (a : Option Mode) : OptionsFrom fun h => { h with val := { h.val with mode := a } } :=
    ⟨fun _ => rfl, fun hv _ => by rw [hv], fun _ ho => ho⟩
  have hsource (a : Option Source) :
      OptionsFrom fun h => { h with val := { h.val with source := a } } :=
    ⟨fun _ => rfl, fun hv _ => by rw [hv], fun _ ho => ho⟩
  have hword (o : Opt) (w : Int) : OptionsFrom fun h => { h with val := h.val.setWord o w } :=
    ⟨fun _ => rfl, fun hv _ => by rw [hv], fun _ ho => ho⟩
  apply sim_bind sim_read
  intro s t hs
  rw [hs.along.valid, hs.along.handle.get Handle.scanning, hs.along.handle.get Handle.val, hs.opt]
  cases Opt.ofNumber option with
  | none => exact sim_fail _
  | some o =>
    refine sim_ite (fun _ => sim_fail _) fun _ => sim_ite (fun _ => sim_fail _) fun _ =>
      sim_ite (fun _ => sim_fail _) fun _ => ?_
    cases action with
    | getValue =>
      cases value with
      | none => exact sim_fail _
      | some value =>
        exact sim_ite (fun _ => sim_fail _) fun _ =>
          sim_ite (fun _ => sim_pure rfl) fun _ => sim_pure rfl
    | setValue =>
      cases value with
      | none => exact sim_fail _
      | some value =>
        refine sim_ite (fun _ => sim_fail _) fun _ => sim_ite (fun _ => ?_) fun _ =>
          sim_bind_eq (sim_modify fun s t hs => hs.update (hword o _)) fun _ => sim_pure rfl
        cases (s.h.opt o).constraint with
        | modeList list => exact sim_setString _ _ hmode value
        | sourceList list => exact sim_setString _ _ hsource value
        | none => exact sim_fail _
        | range r => exact sim_fail _
        | wordList list => exact sim_fail _
    | setAuto => exact sim_fail _
    | other => exact sim_fail _

theorem HandleCall.run_solo (c : HandleCall) (hs : s.Solo b t) (hlive : s.Live) (hlive' : t.Live) :
    (c.call.run env t).1 = (c.call.run env s).1 ∧
      Session.Solo b (c.call.run env s).2 (c.call.run env t).2 := by
  have hkeeps (hc : c.call.keepsOptions) (hno : ∀ o a v, c ≠ .controlOption o a v) :
      (c.call.run env t).1 = (c.call.run env s).1 ∧
        Session.Solo b (c.call.run env s).2 (c.call.run env t).2 := by
    obtain ⟨hr, htwin⟩ : Alike Eq (c.call.run env s).1 (c.call.run env t).1 ∧
        Session.Twin False b b (c.call.run env s).2 (c.call.run env t).2 :=
      Call.sim_run ⟨rfl, rfl⟩ rfl hc s t hs.twin
    have hopt : (c.call.run env s).2.host.h.opt = s.host.h.opt := (c.run_fixture hlive).2.2 hno
    have hopt' : (c.call.run env t).2.host.h.opt = t.host.h.opt := (c.run_fixture hlive').2.2 hno
    exact ⟨alike_eq hr, htwin, hopt'.trans (hs.opt.trans hopt.symm)⟩
  cases c with
  | controlOption o a v =>
    have hhost : Host.Solo s.host t.host :=
      ⟨⟨hs.twin.handle, hs.twin.valid, hs.twin.allocs⟩, hs.opt⟩
    have hsim : Sim (Session.Paired Host.Solo Eq b b) (Session.Paired Host.Solo Eq b b) Eq
        (onHost (saneControlOption o a v)) (onHost (saneControlOption o a v)) :=
      paired_onHost (sim_saneControlOption o a v)
    obtain ⟨hr, hh⟩ := sim_bind_eq hsim (fun r => sim_pure (congrArg Answer.reply rfl)) s t
      ⟨hhost, hs.twin.inp.symm, hs.twin.outp⟩
    exact ⟨alike_eq hr, ⟨hh.host.along.handle, hh.host.along.valid, hh.host.along.allocs, hh.inp.symm,
      hh.outp⟩, hh.host.opt⟩
  | start => exact hkeeps rfl (by simp)
  | read n => exact hkeeps rfl (by simp)
  | cancel => exact hkeeps rfl (by simp)
  | getParameters => exact hkeeps rfl (by simp)
  | setIoMode b => exact hkeeps rfl (by simp)

theorem saneOpen_allocs (s : Session) :
    wp Scan.saneOpen (fun _ t => t.host.allocs <:+ s.host.allocs) s := by
  unfold Scan.saneOpen
  rw [wp_bind, onHost, wp_zoom]
  apply wp_mono (alloc_spec s.host)
  rintro _ t ⟨a, rfl, -, -, -, hsuf, -⟩
  rw [after_ok, wp_ite]
  refine ⟨fun _ => ?_, fun _ => hsuf⟩
  rw [wp_bind, wp_modify, after_ok, wp_bind]
  apply wp_onInp
  intro r i
  cases r with
  | error _ => exact hsuf
  | ok _ =>
    rw [after_ok, wp_bind]
    apply wp_mono (probeAdf_spec _)
    rintro r v ⟨-, a, hv⟩
    have hsuf : v.host.allocs <:+ s.host.allocs := by
      rw [hv]
      exact hsuf
    cases r with
    | error _ => exact hsuf
    | ok _ =>
      -- Only the two copies of the default strings ask for memory.
      have hinit : wp initOptions (fun _ w => w.allocs <:+ v.host.allocs) v.host := by
        unfold initOptions
        rw [wp_bind]
        apply wp_mono (alloc_spec v.host)
        rintro _ w ⟨a, rfl, -, -, -, hw, -⟩
        rw [after_ok, wp_bind]
        apply wp_mono (alloc_spec w)
        rintro _ x ⟨a, rfl, -, -, -, hx, -⟩
        exact hx.trans hw
      rw [after_ok, wp_bind, onHost, wp_zoom]
      apply wp_mono hinit
      intro r w hw
      cases r with
      | error _ => exact hw.trans hsuf
      | ok _ => exact hw.trans hsuf

namespace Backend

theorem consumes_alloc : Consumes Backend.allocs Backend.alloc := by
  intro s
  rcases s with ⟨i, ids, ds, ps, hs, r, _ | ⟨c, cs⟩, n⟩
  · exact List.suffix_rfl
  · exact ⟨[c], rfl⟩

theorem consumes_pantumStrdup (str : Option CString) : Consumes Backend.allocs (pantumStrdup str) := by
  cases str with
  | none => exact consumes_pure _
  | some str => exact consumes_bind consumes_alloc fun _ => consumes_ite (consumes_pure _) (consumes_pure _)

theorem consumes_addDevices (us : List UsbDevice) : Consumes Backend.allocs (addDevices us) := by
  induction us with
  | nil => exact consumes_pure _
  | cons u us ih =>
    apply consumes_bind consumes_read
    intro s
    cases matchingId s.idList u with
    | none => exact ih
    | some id =>
      refine consumes_bind consumes_alloc fun _ => consumes_ite ?_ (consumes_pure _)
      refine consumes_bind (consumes_pantumStrdup _) fun name => consumes_bind (consumes_pantumStrdup _)
        fun model => ?_
      cases name with
      | none => exact consumes_pure _
      | some name =>
        cases model with
        | none => exact consumes_pure _
        | some model => exact consumes_bind (consumes_modify fun _ => rfl) fun _ => ih

theorem consumes_probeDevices (devs : Option (List UsbDevice)) :
    Consumes Backend.allocs (probeDevices devs) := by
  refine consumes_bind consumes_read fun s => consumes_ite (consumes_pure _) ?_
  refine consumes_bind (consumes_modify fun _ => rfl) fun _ => ?_
  cases devs with
  | none => exact consumes_fail _
  | some devs =>
    exact consumes_bind (consumes_addDevices devs) fun _ => consumes_bind consumes_alloc fun _ =>
      consumes_ite (consumes_modify fun _ => rfl) (consumes_fail _)

theorem consumes_openHandle (dev : Nat) (u : UsbDevice) : Consumes Backend.allocs (openHandle dev u) := by
  intro s
  have hopen := saneOpen_allocs (.fresh u.inp u.outSched s.allocs s.ditherReady)
  unfold wp at hopen
  unfold openHandle
  rw [wp_bind, wp_read, after_ok]
  generalize Scan.saneOpen (.fresh u.inp u.outSched s.allocs s.ditherReady) = r at hopen
  dsimp only
  rw [wp_bind, wp_modify, after_ok]
  split
  · exact hopen
  · exact hopen

theorem consumes_saneOpen (out : Bool) (name : Option CString) (probed listed : Option (List UsbDevice)) :
    Consumes Backend.allocs (saneOpen out name probed listed) := by
  refine consumes_bind consumes_read fun s => consumes_ite (consumes_fail _) ?_
  refine consumes_ite (consumes_bind (consumes_probeDevices probed) fun _ => ?_) ?_
  all_goals
    apply consumes_bind consumes_read
    intro s
    cases s.findDevice name with
    | none => exact consumes_fail _
    | some d =>
      refine consumes_ite (consumes_fail _) ?_
      cases listed with
      | none => exact consumes_fail _
      | some devs =>
        dsimp only
        cases devs.find? fun u => u.bus == d.bus && u.addr == d.addr with
        | none => exact consumes_fail _
        | some u =>
          exact consumes_ite (consumes_fail _) (consumes_ite (consumes_fail _)
            (consumes_openHandle d.id u))

end Backend

def ProcessCall.Spares (id : Nat) : ProcessCall → Prop
  | .close i => i ≠ id
  | .exit => False
  | _ => True

def callsOn (id : Nat) (cs : List ProcessCall) : List Call :=
  cs.filterMap fun
    | .handle i c => if i = id then some c.call else none
    | _ => none

namespace Process

def answersOn (env : Env) (id : Nat) : List ProcessCall → Process → List (Except Status Answer)
  | [], _ => []
  | c :: cs, p =>
    let rest := answersOn env id cs (c.run env p).2
    match c with
    | .handle i c => if i = id then (onSession env i c p).1 :: rest else rest
    | _ => rest

variable {p q : Process} {id : Nat}

def Mirrors (p : Process) (b : Outp) (id : Nat) (t : Session) : Prop :=
  t.Live ∧ ∃ h, p.backend.lookup id = some h ∧ Session.Solo b (p.backend.enter h.session) t

theorem Mirrors.other {a : Backend} (hm : p.Mirrors b id t) (hroom : false ∉ a.allocs)
    (hl : a.lookup id = p.backend.lookup id) : Mirrors { q with backend := a } b id t := by
  obtain ⟨hlive, h, hlookup, hsolo⟩ := hm
  exact ⟨hlive, h, hl.trans hlookup, ⟨hsolo.twin.handle, hsolo.twin.valid,
    ⟨hroom, hsolo.twin.allocs.2⟩, hsolo.twin.inp, hsolo.twin.outp⟩, hsolo.opt⟩

theorem lookup_leave_ne {a : Backend} {i : Nat} (hi : i ≠ id) (s : Session) :
    (a.leave i s).lookup id = a.lookup id := by
  unfold Backend.lookup Backend.leave
  rw [List.find?_map]
  have hpred : ((fun h : OpenHandle => h.id == id) ∘ fun h : OpenHandle =>
      if h.id = i then { h with session := s } else h) = fun h => h.id == id := by
    funext x
    rw [Function.comp_apply]
    split <;> rfl
  rw [hpred]
  cases hf : a.handleList.find? fun h => h.id == id with
  | none => rfl
  | some h =>
    have hid : h.id = id := by simpa using List.find?_some hf
    rw [Option.map_some, if_neg (hid ▸ hi.symm)]

theorem lookup_saneClose_ne {a : Backend} {i : Nat} (hi : i ≠ id) {h : OpenHandle}
    (hl : a.lookup i = some h) : (Backend.saneClose i a).2.lookup id = a.lookup id := by
  have herase (l : List OpenHandle) : (l.eraseP fun h => h.id == i).find? (fun h => h.id == id) =
      l.find? fun h => h.id == id := by
    induction l with
    | nil => rfl
    | cons x l ih =>
      rw [List.eraseP_cons, List.find?_cons]
      cases hx : x.id == i with
      | true =>
        have hxi : x.id = i := by simpa using hx
        have hne : (x.id == id) = false := by simpa using hxi ▸ hi
        rw [hne]
        rfl
      | false =>
        rw [cond_false, List.find?_cons, ih]
  unfold Backend.lookup
  rw [(saneClose_lists hl).1]
  exact herase a.handleList

theorem saneClose_allocs {a : Backend} {i : Nat} {h : OpenHandle} (hl : a.lookup i = some h) :
    (Backend.saneClose i a).2.allocs = a.allocs := by
  have hclose : wp (Backend.saneClose i) (fun _ u => u.allocs = a.allocs) a := by
    unfold Backend.saneClose
    rw [wp_bind, wp_read, after_ok]
    unfold Backend.lookup at hl
    rw [hl]
    rfl
  exact hclose

theorem Orderly.initialised (hp : p.Orderly) {h : OpenHandle} (hl : p.backend.lookup id = some h) :
    p.backend.initialised = true := by
  by_contra hi
  have hnil := hp.closed (Bool.eq_false_of_not_eq_true hi)
  have hmem := (lookup_mem hl).1
  rw [hnil] at hmem
  cases hmem

theorem onSession_mirrors (hp : p.Orderly) (hm : p.Mirrors b id t) (c : HandleCall) :
    (onSession env id c p).1 = (c.call.run env t).1 ∧
      (onSession env id c p).2.Mirrors b id (c.call.run env t).2 := by
  obtain ⟨hlive, h, hlookup, hsolo⟩ := hm
  have hself := (hp.live h (lookup_mem hlookup).1).enter p.backend
  obtain ⟨hr, hs⟩ := @HandleCall.run_solo env _ _ _ c hsolo hself hlive
  rw [onSession_found hlookup]
  refine ⟨hr.symm, c.run_live hlive, _, lookup_leave hlookup _, ?_⟩
  exact ⟨⟨hs.twin.handle, hs.twin.valid, hs.twin.allocs, hs.twin.inp, hs.twin.outp⟩, hs.opt⟩

/-! Memory that does not run out goes on lasting. -/

theorem onSession_room (hp : p.Orderly) (hroom : false ∉ p.backend.allocs) (i : Nat) (c : HandleCall) :
    false ∉ (onSession env i c p).2.backend.allocs := by
  cases hl : p.backend.lookup i with
  | none =>
    rw [onSession_gone hl]
    exact hroom
  | some h =>
    have hself := (hp.live h (lookup_mem hl).1).enter p.backend
    rw [onSession_found hl]
    exact (c.run_solo (hself.solo hroom) hself hself).2.twin.allocs.1

theorem closeHandle_room (hp : p.Orderly) (hroom : false ∉ p.backend.allocs) (i : Nat) :
    false ∉ (closeHandle i p).2.backend.allocs := by
  cases hl : p.backend.lookup i with
  | none =>
    rw [closeHandle_gone hl]
    exact hroom
  | some h =>
    have hself := (hp.live h (lookup_mem hl).1).enter p.backend
    have hagree : plainEnv.Agrees plainEnv := ⟨rfl, rfl⟩
    have hs := (sim_saneClose hagree rfl _ _ (hself.solo hroom).twin).2
    rw [closeHandle_found hl, saneClose_allocs (lookup_leave hl _)]
    exact hs.allocs.1

theorem closeAll_room (ids : List Nat) (hp : p.Orderly) (hroom : false ∉ p.backend.allocs) :
    false ∉ (closeAll ids p).2.backend.allocs := by
  induction ids generalizing p with
  | nil => exact hroom
  | cons id ids ih =>
    have hclose := closeHandle_orderly hp id
    have hstep : closeHandle id p = (.ok (), (closeHandle id p).2) := eq_ok hclose.1
    rw [closeAll, bind_ok hstep]
    exact ih hclose.2.1 (closeHandle_room hp hroom id)

theorem room_zoom {α : Type} {m : Prog Status Backend α} (hm : Consumes Backend.allocs m)
    (hroom : false ∉ p.backend.allocs) : false ∉ (zoom backendLens m p).2.backend.allocs :=
  fun hf => hroom ((hm p.backend).mem hf)

theorem call_room (c : ProcessCall) (hp : p.Orderly) (hroom : false ∉ p.backend.allocs) :
    false ∉ (c.run env p).2.backend.allocs := by
  have hlast {α : Type} (m : Prog Status Process α) (k : α → ProcessAnswer) :
      ((m >>= fun a => pure (k a)) p).2.backend.allocs = (m p).2.backend.allocs :=
    keeps_bind_right (f := fun q : Process => q.backend.allocs) (fun _ => keeps_pure _) p
  cases c with
  | init libusb ids =>
    rw [ProcessCall.run, hlast]
    apply room_zoom ?_ hroom
    exact consumes_bind consumes_read fun s => consumes_ite (consumes_pure _)
      (consumes_bind (consumes_modify fun _ => rfl) fun _ => consumes_ite (consumes_fail _)
        (consumes_modify fun _ => rfl))
  | getDevices out devs =>
    rw [ProcessCall.run, hlast]
    apply room_zoom ?_ hroom
    exact consumes_bind consumes_read fun s => consumes_ite (consumes_fail _)
      (consumes_ite (consumes_fail _) (consumes_bind (Backend.consumes_probeDevices devs) fun _ =>
        consumes_gets _))
  | «open» out name probed listed =>
    rw [ProcessCall.run, hlast]
    exact room_zoom (Backend.consumes_saneOpen out name probed listed) hroom
  | handle i c =>
    rw [ProcessCall.run, hlast]
    exact onSession_room hp hroom i c
  | close i =>
    rw [ProcessCall.run, hlast]
    exact closeHandle_room hp hroom i
  | exit =>
    have hexit : Consumes Backend.allocs Backend.saneExit :=
      consumes_bind consumes_read fun s => consumes_ite (consumes_pure _) (consumes_modify fun _ => rfl)
    rw [ProcessCall.run, hlast]
    unfold exit
    rw [read_bind]
    dsimp only
    split
    · have hall := closeAll_orderly _ hp rfl
      have hstep : closeAll (p.backend.handleList.map OpenHandle.id) p =
        (.ok (), (closeAll (p.backend.handleList.map OpenHandle.id) p).2) := eq_ok hall.1
      rw [bind_ok hstep]
      exact room_zoom hexit (closeAll_room _ hp hroom)
    · exact room_zoom hexit hroom

theorem runs_room (cs : List ProcessCall) (hp : p.Orderly) (hroom : false ∉ p.backend.allocs) :
    false ∉ (runs env cs p).2.backend.allocs := by
  induction cs generalizing p with
  | nil => exact hroom
  | cons c cs ih => exact ih (call_orderly c hp).1 (call_room c hp hroom)

/-! What the other calls leave alone. -/

theorem onSession_other (hm : p.Mirrors b id t) {i : Nat} (hi : i ≠ id) (c : HandleCall)
    (hroom : false ∉ (onSession env i c p).2.backend.allocs) :
    (onSession env i c p).2.Mirrors b id t := by
  cases hl : p.backend.lookup i with
  | none =>
    rw [onSession_gone hl]
    exact hm
  | some h =>
    rw [onSession_found hl] at hroom ⊢
    exact hm.other (q := p) hroom (lookup_leave_ne hi _)

theorem closeHandle_other (hm : p.Mirrors b id t) {i : Nat} (hi : i ≠ id)
    (hroom : false ∉ (closeHandle i p).2.backend.allocs) : (closeHandle i p).2.Mirrors b id t := by
  cases hl : p.backend.lookup i with
  | none =>
    rw [closeHandle_gone hl]
    exact hm
  | some h =>
    rw [closeHandle_found hl] at hroom ⊢
    generalize (Scan.saneClose (p.backend.enter h.session)).2 = s at hroom
    refine hm.other (q := ⟨p.backend, p.past ++ [s]⟩) hroom ?_
    rw [lookup_saneClose_ne hi (lookup_leave hl s), lookup_leave_ne hi]

theorem lookup_saneGetDevices (out : Bool) (devs : Option (List UsbDevice)) (a : Backend) (id : Nat) :
    (Backend.saneGetDevices out devs a).2.lookup id = a.lookup id := by
  have hsame : wp (Backend.saneGetDevices out devs) (fun _ b => b.handleList = a.handleList) a := by
    unfold Backend.saneGetDevices
    rw [wp_bind, wp_read, after_ok, wp_ite]
    refine ⟨fun _ => rfl, fun _ => ?_⟩
    rw [wp_ite]
    refine ⟨fun _ => rfl, fun _ => ?_⟩
    rw [wp_bind]
    apply wp_mono (Backend.probeDevices_next devs a)
    rintro r b ⟨hh, -, -⟩
    cases r <;> exact hh
  exact congrArg (List.find? fun h : OpenHandle => h.id == id) hsame

theorem Orderly.lookup_grown (hp : p.Orderly) {h : OpenHandle} (hl : p.backend.lookup id = some h)
    {r : Except Status Nat} {a : Backend} (hgrown : Backend.Grown p.backend a r) :
    a.lookup id = p.backend.lookup id := by
  cases hgrown with
  | same hh _ _ => exact congrArg (List.find? fun h : OpenHandle => h.id == id) hh
  | @opened i _ _ _ _ _ _ _ hh _ hlo _ =>
    obtain ⟨hmem, hid⟩ := lookup_mem hl
    have hlt := hp.fresh h hmem
    rw [hid] at hlt
    have hne : (i == id) = false := by simpa using (hlt.trans_le hlo).ne'
    unfold Backend.lookup
    rw [hh, List.find?_cons]
    dsimp only
    rw [hne]

theorem call_other (hp : p.Orderly) (hroom : false ∉ p.backend.allocs) (hm : p.Mirrors b id t)
    {c : ProcessCall} (hc : c.Spares id) (hno : ∀ c', c ≠ .handle id c') :
    (c.run env p).2.Mirrors b id t := by
  have hroom' : false ∉ (c.run env p).2.backend.allocs := call_room c hp hroom
  have hlookup := hm.2
  obtain ⟨h, hl, -⟩ := hlookup
  have hlast {α : Type} (m : Prog Status Process α) (k : α → ProcessAnswer) :
      ((m >>= fun a => pure (k a)) p).2 = (m p).2 :=
    keeps_bind_right (f := fun q : Process => q) (fun _ => keeps_pure _) p
  cases c with
  | init libusb ids =>
    have hinit : Backend.saneInit libusb ids p.backend = (.ok (), p.backend) := by
      unfold Backend.saneInit
      rw [read_bind, if_pos (hp.initialised hl)]
      rfl
    rw [ProcessCall.run, hlast] at hroom' ⊢
    unfold zoom backendLens at hroom' ⊢
    dsimp only at hroom' ⊢
    rw [hinit]
    exact hm
  | getDevices out devs =>
    rw [ProcessCall.run, hlast] at hroom' ⊢
    exact hm.other (q := p) hroom' (lookup_saneGetDevices out devs p.backend id)
  | «open» out name probed listed =>
    rw [ProcessCall.run, hlast] at hroom' ⊢
    exact hm.other (q := p) hroom'
      (hp.lookup_grown hl (Backend.saneOpen_grown out name probed listed p.backend))
  | handle i c =>
    rw [ProcessCall.run, hlast] at hroom' ⊢
    exact onSession_other hm (fun h => hno c (h ▸ rfl)) c hroom'
  | close i =>
    rw [ProcessCall.run, hlast] at hroom' ⊢
    exact closeHandle_other hm hc hroom'
  | exit => exact hc.elim

theorem find_of_nodup {l : List OpenHandle} (hids : (l.map OpenHandle.id).Nodup) {h : OpenHandle}
    (hh : h ∈ l) : (l.find? fun x => x.id == h.id) = some h := by
  induction l with
  | nil => cases hh
  | cons x l ih =>
    rw [List.map_cons, List.nodup_cons] at hids
    rw [List.find?_cons]
    obtain rfl | hl := List.mem_cons.mp hh
    · rw [beq_self_eq_true]
    · have hne : (x.id == h.id) = false :=
        beq_false_of_ne fun he => hids.1 (he ▸ List.mem_map_of_mem hl)
      rw [hne]
      exact ih hids.2 hl

theorem answersOn_named (c : HandleCall) (cs : List ProcessCall) :
    answersOn env id (.handle id c :: cs) p = (onSession env id c p).1 ::
      answersOn env id cs (ProcessCall.run env (.handle id c) p).2 := if_pos rfl

theorem runs_mirrors (cs : List ProcessCall) (hp : p.Orderly) (hroom : false ∉ p.backend.allocs)
    (hm : p.Mirrors b id t) (hcs : ∀ c ∈ cs, c.Spares id) :
    answersOn env id cs p = (runCalls env (callsOn id cs) t).1 ∧
      (runs env cs p).2.Mirrors b id (runCalls env (callsOn id cs) t).2 := by
  induction cs generalizing p t with
  | nil => exact ⟨rfl, hm⟩
  | cons c cs ih =>
    have hp' : (c.run env p).2.Orderly := (call_orderly c hp).1
    have hrest : ∀ d ∈ cs, d.Spares id := fun d hd => hcs d (List.mem_cons_of_mem _ hd)
    -- Calls on other handles are passed over; those on this one are made on both sides.
    by_cases hno : ∀ c', c ≠ .handle id c'
    · have hm' : (c.run env p).2.Mirrors b id t :=
        call_other hp hroom hm (hcs c List.mem_cons_self) hno
      have hskip : callsOn id (c :: cs) = callsOn id cs ∧
          answersOn env id (c :: cs) p = answersOn env id cs (c.run env p).2 := by
        cases c with
        | handle i c =>
          have hi : i ≠ id := fun h => hno c (h ▸ rfl)
          unfold callsOn
          rw [List.filterMap_cons, answersOn]
          dsimp only
          rw [if_neg hi, if_neg hi]
          exact ⟨rfl, rfl⟩
        | _ => exact ⟨rfl, rfl⟩
      rw [hskip.1, hskip.2]
      exact ih hp' (call_room c hp hroom) hm' hrest
    · obtain ⟨c', hc⟩ := not_forall.mp hno
      obtain rfl := not_not.mp hc
      obtain ⟨hr, hm'⟩ := @onSession_mirrors env _ _ _ _ hp hm c'
      have hstate : (ProcessCall.run env (.handle id c') p).2 = (onSession env id c' p).2 := by
        rw [ProcessCall.run]
        exact keeps_bind_right (f := fun q : Process => q) (fun _ => keeps_pure _) p
      obtain ⟨hrs, hms⟩ := ih hp' (call_room _ hp hroom) (hstate ▸ hm') hrest
      have hcalls : callsOn id (.handle id c' :: cs) = c'.call :: callsOn id cs := by
        unfold callsOn
        rw [List.filterMap_cons]
        dsimp only
        rw [if_pos rfl]
      rw [hcalls, answersOn_named, hr, hrs]
      exact ⟨rfl, hms⟩

/-- With memory to spare, a handle answers its calls, and its device is sent what it is sent, as if
the frontend had no other handles: the calls on them, the handles it opens and closes in between and
the enumerations it makes leave no trace. -/
theorem handles_independent (env : Env) {allocs : List Bool} (hroom : false ∉ allocs)
    (before cs : List ProcessCall) {h : OpenHandle}
    (hh : h ∈ (runs env before (loaded allocs)).2.backend.handleList)
    (hcs : ∀ c ∈ cs, c.Spares h.id) :
    let p := (runs env before (loaded allocs)).2
    let solo := runCalls env (callsOn h.id cs) (p.backend.enter h.session)
    answersOn env h.id cs p = solo.1 ∧
    ∃ g ∈ (runs env cs p).2.backend.handleList, g.id = h.id ∧ g.session.inp = solo.2.inp ∧
      g.session.outp.sent = solo.2.outp.sent ∧ g.session.outp.outStream = solo.2.outp.outStream ∧
      g.session.host.h.val = solo.2.host.h.val ∧ g.session.host.h.params = solo.2.host.h.params := by
  obtain ⟨hp, -⟩ := @runs_orderly env _ before (loaded_orderly allocs)
  have hpr : false ∉ (runs env before (loaded allocs)).2.backend.allocs :=
    runs_room before (loaded_orderly allocs) hroom
  generalize (runs env before (loaded allocs)).2 = p at hh hp hpr
  have hself := (hp.live h hh).enter p.backend
  have hlookup : p.backend.lookup h.id = some h := find_of_nodup hp.ids hh
  have hm : p.Mirrors (p.backend.enter h.session).outp h.id (p.backend.enter h.session) :=
    ⟨hself, h, hlookup, hself.solo hpr⟩
  obtain ⟨hans, -, g, hg, hsolo⟩ := @runs_mirrors env _ _ _ _ cs hp hpr hm hcs
  obtain ⟨hgmem, hgid⟩ := lookup_mem hg
  obtain ⟨fs, hfs, hfs'⟩ := hsolo.twin.outp.sent
  obtain ⟨bs, hbs, hbs'⟩ := hsolo.twin.outp.stream
  exact ⟨hans, g, hgmem, hgid, hsolo.twin.inp.symm, hfs.trans hfs'.symm, hbs.trans hbs'.symm,
    (hsolo.twin.handle.get Handle.val).symm, (hsolo.twin.handle.get Handle.params).symm⟩

def answering (addr : Nat) : UsbDevice :=
  ⟨some (0x232b, 0x0e20), 1, addr, .success, .success, cooperative.inp, cooperative.outp.outSched⟩

def twoOpen : List ProcessCall :=
  [.init .success [⟨0x232b, 0x0e20, some "M6500 series".toList⟩],
    .getDevices true (some [answering 4, answering 5]),
    .open true (some "usb:001:004".toList) none (some [answering 4, answering 5]),
    .open true (some "usb:001:005".toList) none (some [answering 4, answering 5])]

/-- The first handle scans while the second starts a job, drops it and is closed. -/
def interleaved : List ProcessCall :=
  [.handle 2 (.controlOption 10 .setValue (some ⟨0, []⟩)), .handle 3 .start,
    .handle 2 (.controlOption 11 .setValue (some ⟨0, []⟩)), .handle 2 .start, .handle 3 .cancel,
    .close 3, .getDevices true (some [answering 4, answering 5]), .handle 2 (.read 16)]

theorem handles_independent_interleaved :
    ∃ h ∈ (runs plainEnv twoOpen (loaded [])).2.backend.handleList, h.id = 2 ∧
      answersOn plainEnv h.id interleaved (runs plainEnv twoOpen (loaded [])).2 =
        (runCalls plainEnv (callsOn h.id interleaved)
          ((runs plainEnv twoOpen (loaded [])).2.backend.enter h.session)).1 := by
  have hget : (runs plainEnv twoOpen (loaded [])).2.backend.handleList[1]?.map OpenHandle.id = some 2 := by
    decide +kernel
  obtain ⟨h, hh, hid⟩ := Option.map_eq_some_iff.mp hget
  have hmem := List.mem_of_getElem? hh
  have hcs : ∀ c ∈ interleaved, c.Spares h.id := by
    rw [hid]
    simp [interleaved, ProcessCall.Spares]
  exact ⟨h, hmem, hid,
    (handles_independent plainEnv List.not_mem_nil twoOpen interleaved hmem hcs).1⟩

end Process

end PantumOpen.Scan
