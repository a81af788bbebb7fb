import PantumOpen.Scan.Effects

/-! Streams of well-formed frames, and what the read functions do on a frame boundary. -/

namespace PantumOpen.Scan
open Prog Bytes

variable {α : Type}

structure WireFrame where
  header : List UInt8
  payload : List UInt8
  header_length : header.length = pantumHeaderLen
  magic : getBe32 header 0 = pantumMagic
  announced : getBe32 header 20 = payload.length
  bounded : payload.length ≤ pantumMaxPayload

namespace WireFrame

def encode (f : WireFrame) : List UInt8 := f.header ++ f.payload

def frame (f : WireFrame) : Frame := Frame.ofHeader f.header

def cmd (f : WireFrame) : Nat := f.frame.cmd

theorem plen_eq (f : WireFrame) : f.frame.plen = f.payload.length := f.announced

def ofHost (f : HostFrame) (h : (f.encode.take 32).length = pantumHeaderLen ∧
    getBe32 (f.encode.take 32) 0 = pantumMagic ∧
    getBe32 (f.encode.take 32) 20 = f.payload.length ∧ f.payload.length ≤ pantumMaxPayload) :
    WireFrame :=
  ⟨f.encode.take 32, f.payload, h.1, h.2.1, h.2.2.1, h.2.2.2⟩

end WireFrame

def encodeAll (fs : List WireFrame) : List UInt8 := fs.flatMap WireFrame.encode

@[simp] theorem encodeAll_cons (f : WireFrame) (fs : List WireFrame) :
    encodeAll (f :: fs) = f.header ++ (f.payload ++ encodeAll fs) := by
  simp [encodeAll, WireFrame.encode]

/-- What is left of the stream is what is left of the frames `fs`. -/
def Inp.AtFrame (fs : List WireFrame) (i : Inp) : Prop := i.inStream = encodeAll fs

/-- The header of `f` has been read, its payload is next. -/
def Inp.InFrame (f : WireFrame) (fs : List WireFrame) (i : Inp) : Prop :=
  i.inStream = f.payload ++ encodeAll fs

theorem Moved.header {fs : List WireFrame} {i j : Inp} {bs : List UInt8} (h : Moved i j bs)
    (hi : i.AtFrame fs) (hl : bs.length = pantumHeaderLen) :
    ∃ f gs, fs = f :: gs ∧ bs = f.header ∧ j.InFrame f gs := by
  cases fs with
  | nil =>
    have hs := h.stream
    rw [show i.inStream = [] from hi] at hs
    have : bs.length = 0 := by
      have hb := congrArg List.length hs
      rw [List.length_append, List.length_nil] at hb
      omega
    rw [hl] at this
    cases this
  | cons f gs =>
    obtain ⟨hb, hj⟩ := h.eq_of_length (hi.trans (encodeAll_cons f gs))
      (hl.trans f.header_length.symm)
    exact ⟨f, gs, rfl, hb, hj⟩

theorem Moved.payload {f : WireFrame} {fs : List WireFrame} {i j : Inp} {bs : List UInt8}
    (h : Moved i j bs) (hi : i.InFrame f fs) (hl : bs.length = f.payload.length) :
    bs = f.payload ∧ j.AtFrame fs := h.eq_of_length hi hl

def RecvPost (fs : List WireFrame) (i : Inp) : Except Status (Option Frame) → Inp → Prop
  | .ok none, j => Moved i j []
  | .ok (some g), j => j.inSched <:+ i.inSched ∧ ∃ f gs, fs = f :: gs ∧ g = f.frame ∧ j.InFrame f gs
  | .error e, j => e = .ioError ∧ j.inSched <:+ i.inSched

theorem ProbePost.recv {fs : List WireFrame} {i j : Inp} {r : Except Status (Option Frame)}
    (h : ProbePost i r j) (hi : i.AtFrame fs) : RecvPost fs i r j := by
  match r, h with
  | .ok none, h => exact h
  | .ok (some g), ⟨bs, hm, hl, _, hg, _, _⟩ =>
    obtain ⟨f, gs, hfs, rfl, hj⟩ := hm.header hi hl
    exact ⟨hm.sched, f, gs, hfs, hg, hj⟩
  | .error e, ⟨he, bs, hm, _⟩ => exact ⟨he, hm.sched⟩

theorem recvFrame_atFrame {fs : List WireFrame} {i : Inp} (hc : i.Clean) (hi : i.AtFrame fs)
    (probe : Bool) :
    wp (if probe then recvFrameProbe else some <$> recvFrame) (RecvPost fs i) i := by
  rw [wp_ite]
  exact ⟨fun _ => wp_mono (recvFrameProbe_spec hc) fun _ _ h => h.recv hi,
    fun _ => wp_mono (recvFrame_spec hc) fun _ _ h => h.recv hi⟩

theorem recvFrame_blocking {fs : List WireFrame} {i : Inp} (hc : i.Clean) (hi : i.AtFrame fs) :
    wp recvFrame (fun r j => j.inSched <:+ i.inSched ∧ ∀ g, r = .ok g →
      ∃ f gs, fs = f :: gs ∧ g = f.frame ∧ j.InFrame f gs) i := by
  have h := recvFrame_atFrame hc hi false
  rw [if_neg (by decide), wp_map] at h
  apply wp_mono h
  intro r j hr
  match r, hr with
  | .ok g, ⟨hs, hf⟩ => exact ⟨hs, fun g' hg => by rwa [← Except.ok.inj hg]⟩
  | .error e, ⟨_, hs⟩ => exact ⟨hs, fun _ h => by cases h⟩

theorem drainPayload_inFrame {f : WireFrame} {fs : List WireFrame} {i : Inp} (hc : i.Clean)
    (hi : i.InFrame f fs) :
    wp (drainPayload f.frame.plen) (fun r j => j.inSched <:+ i.inSched ∧
      (r = .ok () → j.AtFrame fs) ∧ (r ≠ .ok () → ∃ rest, rest ≠ [] ∧ rest <:+ f.payload ∧
        j.inStream = rest ++ encodeAll fs)) i := by
  apply wp_mono (drainPayload_spec _ hc)
  intro r j hr
  match r, hr with
  | .ok _, ⟨bs, hm, hl⟩ =>
    exact ⟨hm.sched, fun _ => (hm.payload hi (hl.trans f.plen_eq)).2, fun h => absurd rfl h⟩
  | .error _, ⟨_, bs, hm, hl⟩ =>
    rw [f.plen_eq] at hl
    refine ⟨hm.sched, fun h => (by cases h), fun _ => ?_⟩
    have hs : bs ++ j.inStream = f.payload ++ encodeAll fs := hm.stream.symm.trans hi
    obtain ⟨rest, hrest⟩ : bs <+: f.payload :=
      List.prefix_of_prefix_length_le ⟨_, hs⟩ ⟨_, rfl⟩ hl.le
    refine ⟨rest, ?_, ⟨bs, hrest⟩, ?_⟩
    · rintro rfl
      rw [List.append_nil] at hrest
      rw [hrest] at hl
      exact lt_irrefl _ hl
    · rw [← hrest, List.append_assoc] at hs
      exact List.append_cancel_left hs

def WireFrame.block (f : WireFrame) : Block where
  first := getBe32 f.payload 4
  rows := getBe32 f.payload 8
  avail := min ((f.payload.length - pantumDataHeaderLen) / getBe32 f.payload 8 /
    getBe32 f.payload 12) (getBe32 f.payload 16)
  stride := (f.payload.length - pantumDataHeaderLen) / getBe32 f.payload 8
  raw := f.payload.drop pantumDataHeaderLen

/-- The number of bytes per pixel a data block announces. -/
def WireFrame.planes (f : WireFrame) : Nat := getBe32 f.payload 12

def Parameters.planes (p : Parameters) : Nat := if p.format = .rgb then 3 else 1

/-- A data block that was taken: it is well formed, read to its end and placed on the page. -/
structure BlockTaken (env : Env) (f : WireFrame) (fs : List WireFrame) (s s' : Session) : Prop where
  planes : f.planes = s.host.h.params.planes
  rows : 0 < f.block.rows
  body : f.planes ≤ f.block.stride
  emits : EmitPost (blockRow env s.host.h f.block)
    (f.block.target s.host.h.params.lines s.host.h.nextRow) s.host (.ok ()) s'.host
  inp : s'.inp.AtFrame fs
  outp : s'.outp = s.outp

theorem Moved.split {f : WireFrame} {fs : List WireFrame} {i j : Inp} {head : List UInt8}
    (h : Moved i j head) (hi : i.InFrame f fs) (hl : head.length ≤ f.payload.length) :
    head = f.payload.take head.length ∧
      j.inStream = f.payload.drop head.length ++ encodeAll fs := by
  have hs : i.inStream = f.payload.take head.length ++
      (f.payload.drop head.length ++ encodeAll fs) := by
    rw [← List.append_assoc, List.take_append_drop]
    exact hi
  exact h.eq_of_length hs (by rw [List.length_take]; omega)

theorem handleDataBlock_inFrame (env : Env) {f : WireFrame} {fs : List WireFrame} {s : Session}
    (hc : s.inp.Clean) (hi : s.inp.InFrame f fs) :
    wp (handleDataBlock env f.frame.plen) (fun r s' => r = .ok () → BlockTaken env f fs s s') s := by
  have hreject (n : Nat) (e : Status) (t : Session) :
      wp (do onInp (ignore (drainPayload n)); fail e : Prog Status Session Unit)
        (fun r s' => r = .ok () → BlockTaken env f fs s s') t := by
    rw [wp_bind]
    exact wp_onInp_ignore fun j hr => by cases hr
  unfold handleDataBlock
  rw [f.plen_eq, wp_ite]
  refine ⟨fun _ => hreject _ _ s, fun hlen => ?_⟩
  have hlen : pantumDataHeaderLen ≤ f.payload.length := not_lt.mp hlen
  rw [wp_bind, onInp, wp_zoom]
  apply wp_mono (usbRead_spec _ hc)
  intro r i hr
  cases r with
  | error _ => exact fun hr => by cases hr
  | ok head =>
    obtain ⟨hm, hl, -⟩ := hr
    obtain ⟨hhead, hj⟩ := hm.split hi (hl.trans_le hlen)
    rw [hl] at hhead hj
    have hword (off : Nat) (ho : off + 4 ≤ pantumDataHeaderLen) :
        getBe32 head off = getBe32 f.payload off := by rw [hhead, getBe32_take ho (ho.trans hlen)]
    rw [after_ok]
    dsimp only
    rw [hword 0 (by decide), hword 4 (by decide), hword 8 (by decide), hword 12 (by decide),
      hword 16 (by decide), wp_bind, wp_getHandle, after_ok, wp_ite]
    refine ⟨fun _ => hreject _ _ _, fun _ => ?_⟩
    rw [wp_ite]
    refine ⟨fun _ => hreject _ _ _, fun hform => ?_⟩
    rw [wp_ite]
    refine ⟨fun _ => hreject _ _ _, fun hplanes => ?_⟩
    rw [wp_bind, onHost, wp_zoom]
    apply wp_mono (rawReserve_spec (blockRow env s.host.h f.block) _ _)
    rintro _ t ⟨⟨b, rfl, -⟩, he, hn⟩
    rw [after_ok, wp_ite]
    refine ⟨fun _ => ?_, fun _ => hreject _ _ _⟩
    rw [wp_bind, onInp, wp_zoom]
    apply wp_mono (usbRead_spec _ (hm.clean hc))
    intro r j hr
    cases r with
    | error _ => exact fun hr => by cases hr
    | ok raw =>
      obtain ⟨hm', hl', -⟩ := hr
      obtain ⟨hraw, hk⟩ := hm'.eq_of_length hj (by rw [hl', List.length_drop])
      rw [after_ok, onHost, wp_zoom, hraw]
      refine wp_mono (placeBlock_spec env f.block (getBe32_lt _ _) (getBe32_lt _ _) t)
        fun r u hu hr => ?_
      subst hr
      rw [he.control.blockRow, he.control.params, hn] at hu
      obtain ⟨hrows, hform⟩ := not_or.mp hform
      exact ⟨not_not.mp hplanes, Nat.pos_of_ne_zero hrows, not_lt.mp (not_or.mp hform).2,
        ⟨he.trans hu.1, hu.2⟩, hk, rfl⟩

end PantumOpen.Scan
