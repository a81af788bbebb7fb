import PantumOpen.Scan.Devices

/-! Which device an open handle holds: it is in the device list, it is marked busy, and no other
handle has it. -/

namespace PantumOpen.Scan.Backend
open Prog

variable {s t : Backend}

/-- Every open handle has a device of its own in the list, and those are the busy ones. -/
structure Owned (s : Backend) : Prop where
  live : ∀ h ∈ s.handleList, ∃ d ∈ s.deviceList, d.id = h.dev
  exclusive : (s.handleList.map OpenHandle.dev).Nodup
  busy : ∀ d ∈ s.deviceList, d.busy = true ↔ ∃ h ∈ s.handleList, h.dev = d.id

structure Sound (s : Backend) : Prop extends Owned s where
  fresh : ∀ d ∈ s.deviceList, d.id < s.next
  closed : s.initialised = false → s.handleList = []

theorem loaded_sound (allocs : List Bool) : (loaded allocs).Sound where
  live _ h := absurd h List.not_mem_nil
  exclusive := List.nodup_nil
  busy _ h := absurd h List.not_mem_nil
  fresh _ h := absurd h List.not_mem_nil
  closed _ := rfl

theorem alloc_frame (s : Backend) :
    wp alloc (fun r t => (∃ b, r = .ok b) ∧ ∃ as, t = { s with allocs := as }) s := by
  rcases s with ⟨i, ids, ds, ps, hs, r, _ | ⟨b, bs⟩, n⟩
  · exact ⟨⟨true, rfl⟩, [], rfl⟩
  · exact ⟨⟨b, rfl⟩, bs, rfl⟩

theorem pantumStrdup_frame (str : Option CString) (s : Backend) :
    wp (pantumStrdup str) (fun r t => (∃ c, r = .ok c) ∧ ∃ as, t = { s with allocs := as }) s := by
  match str with
  | none => exact ⟨⟨none, rfl⟩, s.allocs, rfl⟩
  | some str =>
    unfold pantumStrdup
    rw [wp_bind]
    apply wp_mono (alloc_frame s)
    rintro _ t ⟨⟨b, rfl⟩, ht⟩
    rw [after_ok, wp_ite]
    exact ⟨fun _ => ⟨⟨_, rfl⟩, ht⟩, fun _ => ⟨⟨_, rfl⟩, ht⟩⟩

structure Added (s t : Backend) : Prop where
  handleList : t.handleList = s.handleList
  initialised : t.initialised = s.initialised
  next : s.next ≤ t.next
  devices : ∀ d ∈ t.deviceList, d ∈ s.deviceList ∨
    (d.busy = false ∧ s.next ≤ d.id ∧ d.id < t.next)

theorem Added.refl (s : Backend) : Added s s := ⟨rfl, rfl, le_rfl, fun _ => .inl⟩

theorem Added.of_allocs {as : List Bool} (h : Added s t) : Added s { t with allocs := as } :=
  ⟨h.handleList, h.initialised, h.next, h.devices⟩

theorem Added.trans {u : Backend} (h : Added s t) (h' : Added t u) : Added s u where
  handleList := h'.handleList.trans h.handleList
  initialised := h'.initialised.trans h.initialised
  next := h.next.trans h'.next
  devices d hd := by
    rcases h'.devices d hd with hd | ⟨hb, hlo, hhi⟩
    · exact (h.devices d hd).imp id fun ⟨hb, hlo, hhi⟩ => ⟨hb, hlo, hhi.trans_le h'.next⟩
    · exact .inr ⟨hb, h.next.trans hlo, hhi⟩

theorem pushDevice_added (u : UsbDevice) (id : PantumId) (name model : CString) (s : Backend) :
    Added s (pushDevice u id name model s) where
  handleList := rfl
  initialised := rfl
  next := Nat.le_succ _
  devices d hd := by
    rcases List.mem_cons.mp hd with rfl | hd
    · exact .inr ⟨rfl, le_rfl, Nat.lt_succ_self _⟩
    · exact .inl hd

theorem addDevices_added (us : List UsbDevice) (s : Backend) :
    wp (addDevices us) (fun _ t => Added s t) s := by
  induction us generalizing s with
  | nil => exact .refl s
  | cons u us ih =>
    rw [addDevices, wp_bind, wp_read, after_ok]
    split
    · exact ih s
    rename_i id _
    rw [wp_bind]
    apply wp_mono (alloc_frame s)
    rintro _ _ ⟨⟨b, rfl⟩, as, rfl⟩
    rw [after_ok, wp_ite]
    refine ⟨fun _ => ?_, fun _ => (Added.refl s).of_allocs⟩
    rw [wp_bind]
    apply wp_mono (pantumStrdup_frame _ _)
    rintro _ _ ⟨⟨name, rfl⟩, as, rfl⟩
    rw [after_ok, wp_bind]
    apply wp_mono (pantumStrdup_frame _ _)
    rintro _ _ ⟨⟨model, rfl⟩, as, rfl⟩
    rw [after_ok]
    have hstop : Added s { s with allocs := as } := (Added.refl s).of_allocs
    match name, model with
    | some name, some model =>
      dsimp only
      rw [wp_bind, wp_modify, after_ok]
      exact wp_mono (ih _) fun _ t ht => (hstop.trans (pushDevice_added u id name model _)).trans ht
    | none, none => exact hstop
    | none, some _ => exact hstop
    | some _, none => exact hstop

structure Rebuilt (s t : Backend) : Prop where
  handleList : t.handleList = s.handleList
  initialised : t.initialised = s.initialised
  devices : ∀ d ∈ t.deviceList, d.busy = false ∧ s.next ≤ d.id ∧ d.id < t.next

theorem Added.rebuilt (h : Added s.freeDevices t) : Rebuilt s t :=
  ⟨h.handleList, h.initialised, fun d hd => (h.devices d hd).resolve_left List.not_mem_nil⟩

/-- The guard of `probe_devices`. -/
def Pinned (s : Backend) : Prop := s.handleList ≠ [] ∧ s.devicePtrs ≠ none

theorem probeDevices_spec (devs : Option (List UsbDevice)) (s : Backend) :
    wp (probeDevices devs) (fun _ t => (s.Pinned → t = s) ∧ (¬ s.Pinned → Rebuilt s t)) s := by
  have hpin : (!s.handleList.isEmpty && s.devicePtrs.isSome) = true ↔ s.Pinned := by
    unfold Pinned
    cases s.handleList <;> cases s.devicePtrs <;> simp
  unfold probeDevices
  rw [wp_bind, wp_read, after_ok, wp_ite, hpin]
  refine ⟨fun h => ⟨fun _ => rfl, fun h' => absurd h h'⟩, fun h => ?_⟩
  have hpost {t : Backend} (ht : Rebuilt s t) : (s.Pinned → t = s) ∧ (¬ s.Pinned → Rebuilt s t) :=
    ⟨fun h' => absurd h' h, fun _ => ht⟩
  rw [wp_bind, wp_modify, after_ok]
  match devs with
  | none => exact hpost (Added.refl _).rebuilt
  | some devs =>
    dsimp only
    rw [wp_bind]
    apply wp_mono (addDevices_added devs s.freeDevices)
    intro r t ht
    match r with
    | .error _ => exact hpost ht.rebuilt
    | .ok _ =>
      rw [after_ok, wp_bind]
      apply wp_mono (alloc_frame t)
      rintro _ _ ⟨⟨b, rfl⟩, as, rfl⟩
      have hr : Rebuilt s { t with allocs := as } := ht.of_allocs.rebuilt
      rw [after_ok, wp_ite]
      exact ⟨fun _ => hpost ⟨hr.handleList, hr.initialised, hr.devices⟩, fun _ => hpost hr⟩

theorem Rebuilt.sound (h : Rebuilt s t) (hs : s.handleList = []) : t.Sound := by
  have ht : t.handleList = [] := h.handleList.trans hs
  refine ⟨⟨?_, ?_, fun d hd => ?_⟩, fun d hd => (h.devices d hd).2.2, fun _ => ht⟩ <;> rw [ht]
  · exact fun _ h => absurd h List.not_mem_nil
  · exact List.nodup_nil
  · rw [(h.devices d hd).1]
    exact ⟨fun h => absurd h Bool.false_ne_true, fun ⟨_, h, _⟩ => absurd h List.not_mem_nil⟩

/-- Rebuilding the list under an open handle takes its device away. -/
theorem Rebuilt.not_owned (h : Rebuilt s t) (hs : s.Sound) (hopen : s.handleList ≠ []) :
    ¬ t.Owned := by
  intro ht
  obtain ⟨x, hx⟩ := List.exists_mem_of_ne_nil _ hopen
  obtain ⟨d, hd, hdx⟩ := hs.live x hx
  obtain ⟨d', hd', hdx'⟩ := ht.live x (by rwa [h.handleList])
  have hold := hs.fresh d hd
  have hnew := (h.devices d' hd').2.1
  omega

theorem findDevice_mem {name : Option CString} {d : PantumDevice}
    (h : s.findDevice name = some d) : d ∈ s.deviceList := by
  unfold findDevice at h
  split at h
  · exact List.mem_of_head? h
  · split at h
    · exact List.mem_of_head? h
    · exact List.mem_of_find?_eq_some h

structure Marked (dev : Nat) (busy : Bool) (d e : PantumDevice) : Prop where
  id : e.id = d.id
  hit : d.id = dev → e.busy = busy
  miss : d.id ≠ dev → e.busy = d.busy

theorem marked_setBusy (dev : Nat) (busy : Bool) (d : PantumDevice) :
    Marked dev busy d (if d.id = dev then { d with busy := busy } else d) := by
  split
  · exact ⟨rfl, fun _ => rfl, fun h => absurd ‹_› h⟩
  · exact ⟨rfl, fun h => absurd h ‹_›, fun _ => rfl⟩

theorem exists_marked (dev : Nat) (busy : Bool) {d : PantumDevice} (hd : d ∈ s.deviceList) :
    ∃ e ∈ (setBusy dev busy s).deviceList, e.id = d.id :=
  ⟨_, List.mem_map_of_mem hd, (marked_setBusy dev busy d).id⟩

theorem marked_of_mem {dev : Nat} {busy : Bool} {e : PantumDevice}
    (he : e ∈ (setBusy dev busy s).deviceList) : ∃ d ∈ s.deviceList, Marked dev busy d e := by
  obtain ⟨d, hd, rfl⟩ := List.mem_map.mp he
  exact ⟨d, hd, marked_setBusy dev busy d⟩

theorem Sound.lend (hs : s.Sound) {d : PantumDevice} (hd : d ∈ s.deviceList) (hfree : d.busy = false)
    (hopen : s.initialised = true) {h : OpenHandle} (hdev : h.dev = d.id) :
    Sound { setBusy d.id true s with handleList := h :: s.handleList, next := s.next + 1 } where
  live x hx := by
    have hx : ∃ d' ∈ s.deviceList, d'.id = x.dev := by
      rcases List.mem_cons.mp hx with rfl | hx
      · exact ⟨d, hd, hdev.symm⟩
      · exact hs.live x hx
    obtain ⟨d', hd', hdx⟩ := hx
    obtain ⟨e, he, hed⟩ := exists_marked d.id true hd'
    exact ⟨e, he, hed.trans hdx⟩
  exclusive := by
    rw [List.map_cons, List.nodup_cons]
    refine ⟨fun hmem => ?_, hs.exclusive⟩
    obtain ⟨x, hx, hxd⟩ := List.mem_map.mp hmem
    exact Bool.false_ne_true (hfree.symm.trans ((hs.busy d hd).mpr ⟨x, hx, hxd.trans hdev⟩))
  busy e he := by
    obtain ⟨d', hd', hm⟩ := marked_of_mem he
    by_cases hid : d'.id = d.id
    · refine ⟨fun _ => ⟨h, List.mem_cons_self, ?_⟩, fun _ => hm.hit hid⟩
      rw [hdev, hm.id, hid]
    · rw [hm.miss hid, hs.busy d' hd', hm.id]
      refine ⟨fun ⟨x, hx, hxd⟩ => ⟨x, List.mem_cons_of_mem _ hx, hxd⟩, fun ⟨x, hx, hxd⟩ => ?_⟩
      rcases List.mem_cons.mp hx with rfl | hx
      · exact absurd (hxd.symm.trans hdev) hid
      · exact ⟨x, hx, hxd⟩
  fresh e he := by
    obtain ⟨d', hd', hm⟩ := marked_of_mem he
    rw [hm.id]
    exact (hs.fresh d' hd').trans (Nat.lt_succ_self _)
  closed h := absurd (hopen.symm.trans h) (by decide)

theorem Sound.giveBack (hs : s.Sound) {handle : Nat} {h : OpenHandle}
    (hfind : s.handleList.find? (fun h => h.id == handle) = some h) :
    Sound (setBusy h.dev false
      { s with handleList := s.handleList.eraseP fun h => h.id == handle }) := by
  obtain ⟨hp, before, after, hsplit, hbefore⟩ := List.find?_eq_some_iff_append.mp hfind
  have herase : s.handleList.eraseP (fun h => h.id == handle) = before ++ after := by
    rw [hsplit, List.eraseP_append_right _ fun x hx => by simpa using hbefore x hx,
      List.eraseP_cons_of_pos (p := fun x : OpenHandle => x.id == handle) hp]
  have hnodup := hs.exclusive
  rw [hsplit, List.map_append, List.map_cons, List.nodup_middle, List.nodup_cons,
    ← List.map_append] at hnodup
  have hsub {x : OpenHandle} (hx : x ∈ before ++ after) : x ∈ s.handleList := by
    rw [hsplit, List.mem_append, List.mem_cons]
    rcases List.mem_append.mp hx with hx | hx
    · exact .inl hx
    · exact .inr (.inr hx)
  rw [herase]
  refine ⟨⟨fun x hx => ?_, hnodup.2, fun e he => ?_⟩, fun e he => ?_, fun hc => ?_⟩
  · obtain ⟨d, hd, hdx⟩ := hs.live x (hsub hx)
    obtain ⟨e, he, hed⟩ :=
      exists_marked (s := { s with handleList := before ++ after }) h.dev false hd
    exact ⟨e, he, hed.trans hdx⟩
  · obtain ⟨d, hd, hm⟩ := marked_of_mem he
    by_cases hid : d.id = h.dev
    · rw [hm.hit hid, hm.id, hid]
      refine ⟨fun h => absurd h Bool.false_ne_true, fun ⟨x, hx, hxd⟩ => ?_⟩
      exact absurd (hxd ▸ List.mem_map_of_mem hx) hnodup.1
    · rw [hm.miss hid, hs.busy d hd, hm.id]
      refine ⟨fun ⟨x, hx, hxd⟩ => ⟨x, ?_, hxd⟩, fun ⟨x, hx, hxd⟩ => ⟨x, hsub hx, hxd⟩⟩
      rw [hsplit, List.mem_append, List.mem_cons] at hx
      rcases hx with hx | rfl | hx
      · exact List.mem_append_left _ hx
      · exact absurd hxd.symm hid
      · exact List.mem_append_right _ hx
  · obtain ⟨d, hd, hm⟩ := marked_of_mem he
    rw [hm.id]
    exact hs.fresh d hd
  · have hnil : s.handleList = [] := hs.closed hc
    rw [hnil] at hsplit
    exact absurd hsplit (by simp)

theorem Sound.of_allocs (hs : s.Sound) (as : List Bool) : Sound { s with allocs := as } :=
  ⟨⟨hs.live, hs.exclusive, hs.busy⟩, hs.fresh, hs.closed⟩

theorem openHandle_sound (hs : s.Sound) (hopen : s.initialised = true) {d : PantumDevice}
    (hd : d ∈ s.deviceList) (hfree : d.busy = false) (u : UsbDevice) :
    wp (openHandle d.id u) (fun _ t => t.Sound) s := by
  unfold openHandle
  rw [wp_bind, wp_read, after_ok]
  generalize Scan.saneOpen (.fresh u.inp u.outSched s.allocs s.ditherReady) = r
  dsimp only
  rw [wp_bind, wp_modify, after_ok]
  split
  · exact hs.of_allocs _
  · rw [wp_bind, wp_modify, after_ok, wp_bind, wp_modify, after_ok, wp_pure]
    exact (hs.of_allocs r.2.host.allocs).lend hd hfree hopen (h := ⟨s.next, d.id, r.2⟩) rfl

theorem saneOpen_sound (hs : s.Sound) (out : Bool) (name : Option CString)
    (probed listed : Option (List UsbDevice)) :
    wp (saneOpen out name probed listed) (fun _ t => t.Sound) s := by
  unfold saneOpen
  rw [wp_bind, wp_read, after_ok, wp_ite]
  refine ⟨fun _ => hs, fun hbad => ?_⟩
  have hopen : s.initialised = true := by
    by_contra h
    exact hbad (by simp [h])
  apply wp_ite_bind fun _ t => t.Sound ∧ t.initialised = true
  · intro hempty
    -- With no device in the list there is no handle either.
    have hnil : s.handleList = [] := by
      by_contra hne
      obtain ⟨x, hx⟩ := List.exists_mem_of_ne_nil _ hne
      obtain ⟨d, hd, -⟩ := hs.live x hx
      rw [List.isEmpty_iff.mp hempty] at hd
      cases hd
    apply wp_mono (probeDevices_spec probed s)
    intro r t ht
    have hrb : Rebuilt s t := ht.2 fun h => h.1 hnil
    exact ⟨hrb.sound hnil, hrb.initialised.trans hopen⟩
  · exact fun _ => ⟨hs, hopen⟩
  rintro r t ⟨ht, hopen⟩
  cases r with
  | error _ => exact ht
  | ok _ =>
    rw [after_ok, wp_bind, wp_read, after_ok]
    split
    · exact ht
    rename_i d hfind
    rw [wp_ite]
    refine ⟨fun _ => ht, fun hbusy => ?_⟩
    cases listed with
    | none => exact ht
    | some devs =>
      dsimp only
      split
      · exact ht
      rw [wp_ite]
      refine ⟨fun _ => ht, fun _ => ?_⟩
      rw [wp_ite]
      exact ⟨fun _ => ht, fun _ => openHandle_sound ht hopen (findDevice_mem hfind)
        (Bool.eq_false_of_not_eq_true hbusy) _⟩

theorem saneClose_sound (hs : s.Sound) (handle : Nat) :
    wp (saneClose handle) (fun _ t => t.Sound) s := by
  unfold saneClose
  rw [wp_bind, wp_read, after_ok]
  split
  · exact hs
  · rename_i h hfind
    rw [wp_bind, wp_modify, after_ok, wp_modify]
    exact hs.giveBack hfind

theorem saneInit_sound (hs : s.Sound) (libusb : UsbRc) (ids : List PantumId) :
    wp (saneInit libusb ids) (fun _ t => t.Sound) s := by
  have hempty (b : Bool) (ids : List PantumId) : Sound
      { s with idList := ids, deviceList := [], devicePtrs := none, handleList := [], initialised := b } :=
    ⟨⟨fun _ h => absurd h List.not_mem_nil, List.nodup_nil, fun _ h => absurd h List.not_mem_nil⟩,
      fun _ h => absurd h List.not_mem_nil, fun _ => rfl⟩
  unfold saneInit
  rw [wp_bind, wp_read, after_ok, wp_ite]
  refine ⟨fun _ => hs, fun _ => ?_⟩
  rw [wp_bind, wp_modify, after_ok, wp_ite]
  exact ⟨fun _ => hempty _ _, fun _ => hempty _ _⟩

theorem saneExit_sound (hs : s.Sound) : wp saneExit (fun _ t => t.Sound) s := by
  unfold saneExit
  rw [wp_bind, wp_read, after_ok, wp_ite]
  refine ⟨fun _ => hs, fun _ => ?_⟩
  rw [wp_modify]
  exact ⟨⟨fun _ h => absurd h List.not_mem_nil, List.nodup_nil, fun _ h => absurd h List.not_mem_nil⟩,
    fun _ h => absurd h List.not_mem_nil, fun _ => rfl⟩

/-- No enumeration while a handle is open and the array for the frontend is missing. -/
def Call.Careful (c : Call) (s : Backend) : Prop :=
  match c with
  | .getDevices out _ => out = true → s.handleList = [] ∨ s.devicePtrs ≠ none
  | _ => True

def CarefulCalls : List Call → Backend → Prop
  | [], _ => True
  | c :: cs, s => c.Careful s ∧ CarefulCalls cs (c.run s).2

theorem saneGetDevices_sound (hs : s.Sound) (out : Bool) (devs : Option (List UsbDevice)) :
    wp (saneGetDevices out devs) (fun _ t => (t.Owned ↔ (Call.getDevices out devs).Careful s) ∧
      ((Call.getDevices out devs).Careful s → t.Sound)) s := by
  unfold saneGetDevices
  rw [wp_bind, wp_read, after_ok, wp_ite]
  refine ⟨fun hclosed => ?_, fun hinit => ?_⟩
  · have hnil := hs.closed (by simpa using hclosed)
    exact ⟨⟨fun _ _ => .inl hnil, fun _ => hs.toOwned⟩, fun _ => hs⟩
  rw [wp_ite]
  refine ⟨fun hout => ?_, fun hout => ?_⟩
  · have hout : out = false := by simpa using hout
    exact ⟨⟨fun _ h => absurd (hout.symm.trans h) Bool.false_ne_true, fun _ => hs.toOwned⟩, fun _ => hs⟩
  have hout : out = true := by simpa using hout
  rw [wp_bind]
  apply wp_mono (probeDevices_spec devs s)
  intro r t ht
  have hpost : (t.Owned ↔ (Call.getDevices out devs).Careful s) ∧
      ((Call.getDevices out devs).Careful s → t.Sound) := by
    by_cases hpin : s.Pinned
    · rw [ht.1 hpin]
      exact ⟨⟨fun _ _ => .inr hpin.2, fun _ => hs.toOwned⟩, fun _ => hs⟩
    have hrb := ht.2 hpin
    have hsound (hc : (Call.getDevices out devs).Careful s) : t.Sound :=
      hrb.sound ((hc hout).elim id fun hp => by
        by_contra hne
        exact hpin ⟨hne, hp⟩)
    refine ⟨⟨fun howned _ => ?_, fun hc => (hsound hc).toOwned⟩, hsound⟩
    by_contra hno
    exact hrb.not_owned hs (fun h => hno (.inl h)) howned
  match r with
  | .error _ => exact hpost
  | .ok _ => exact hpost

theorem Call.run_sound (c : Call) (hs : s.Sound) :
    ((c.run s).2.Owned ↔ c.Careful s) ∧ (c.Careful s → (c.run s).2.Sound) := by
  have hall {t : Backend} (ht : t.Sound) : (t.Owned ↔ True) ∧ (True → t.Sound) :=
    ⟨⟨fun _ => trivial, fun _ => ht.toOwned⟩, fun _ => ht⟩
  match c with
  | .init libusb ids => exact hall (saneInit_sound hs libusb ids)
  | .getDevices out devs => exact saneGetDevices_sound hs out devs
  | .open out name probed listed => exact hall (saneOpen_sound hs out name probed listed)
  | .close handle => exact hall (saneClose_sound hs handle)
  | .exit => exact hall (saneExit_sound hs)

theorem runCalls_owned_iff (cs : List Call) (hs : s.Sound) :
    (∀ pre, pre <+: cs → (runCalls pre s).Owned) ↔ CarefulCalls cs s := by
  induction cs generalizing s with
  | nil =>
    refine ⟨fun _ => trivial, fun _ pre hpre => ?_⟩
    rw [List.prefix_nil.mp hpre]
    exact hs.toOwned
  | cons c cs ih =>
    obtain ⟨hiff, hnext⟩ := c.run_sound hs
    refine ⟨fun h => ?_, fun ⟨hc, hrest⟩ pre hpre => ?_⟩
    · have hc : c.Careful s := hiff.mp (h [c] ⟨cs, rfl⟩)
      exact ⟨hc, (ih (hnext hc)).mp fun pre hpre => h (c :: pre) (List.cons_prefix_cons.mpr ⟨rfl, hpre⟩)⟩
    · match pre, hpre with
      | [], _ => exact hs.toOwned
      | d :: pre, hpre =>
        obtain ⟨rfl, htail⟩ := List.cons_prefix_cons.mp hpre
        exact (ih (hnext hc)).mpr hrest pre htail

/-- However the calls are ordered, what the bus reports and which allocations fail: open handles
keep their devices up to any point of the run exactly when the run is careful. -/
theorem devices_owned_iff (allocs : List Bool) (cs : List Call) :
    (∀ pre, pre <+: cs → (runCalls pre (loaded allocs)).Owned) ↔ CarefulCalls cs (loaded allocs) :=
  runCalls_owned_iff cs (loaded_sound allocs)

def quietScanner : UsbDevice :=
  ⟨some (0x232b, 0x0e20), 1, 4, .success, .success, ⟨[], []⟩, []⟩

/-- A probe runs out of memory for the array, and the device it found is opened nevertheless. -/
def missingArray : List Call :=
  [.init .success [⟨0x232b, 0x0e20, some "M6500 series".toList⟩], .getDevices true (some [quietScanner]),
    .open true none none (some [quietScanner]), .getDevices true (some [quietScanner])]

theorem missingArray_dangling : ¬ ∀ allocs cs, (runCalls cs (loaded allocs)).Owned := by
  intro h
  have hlive := (h [true, true, true, false] missingArray).live
  revert hlive
  decide +kernel

end PantumOpen.Scan.Backend
