import PantumOpen.Scan.RowContent
import PantumOpen.Scan.SideBySide

/-! Two sessions side by side: once a job has begun they can only differ in what no job reads, and
so everything they do is the same. -/

namespace PantumOpen.Scan
open Prog Bytes Buffer

/-- `h` with the fields of `h'` that a job is not allowed to notice: the descriptors, the feeder
flag, and how the buffers are laid out. -/
def Handle.withBuffers (h h' : Handle) : Handle :=
  { h with
    opt := h'.opt, hasAdf := h'.hasAdf, out := h'.out, outPos := h'.outPos, outCap := h'.outCap
    outAlloc := h'.outAlloc, rawCap := h'.rawCap }

/-- Two handles at the same point of the same job; `z` tells whether it is still being started. -/
structure Handle.Twin (z : Prop) (h h' : Handle) : Prop where
  control : h' = h.withBuffers h'
  queue : h.Queue
  queue' : h'.Queue
  pending : h'.pending = h.pending
  start : z → h.outPos = 0 ∧ h'.outPos = 0
  layout : h.params.Layout

structure Session.Twin (z : Prop) (b b' : Outp) (s s' : Session) : Prop where
  handle : s.host.h.Twin z s'.host.h
  valid : s'.host.valid = s.host.valid
  allocs : false ∉ s.host.allocs ∧ false ∉ s'.host.allocs
  inp : s'.inp = s.inp
  outp : Outp.Twin b b' s.outp s'.outp

variable {z : Prop} {b b' : Outp} {h h' : Handle} {s s' : Session} {env : Env} {α : Type}

theorem Handle.Twin.get {β : Type} (g : Handle → β) (a : h.Twin z h')
    (hg : ∀ h h', g (h.withBuffers h') = g h := by intros; rfl) : g h' = g h :=
  (congrArg g a.control).trans (hg h h')

structure Plain (f : Handle → Handle) : Prop where
  comm : ∀ h h', f (h.withBuffers h') = (f h).withBuffers (f h')
  out : ∀ h, (f h).out = h.out
  outPos : ∀ h, (f h).outPos = h.outPos
  params : ∀ h, (f h).params = h.params

theorem Handle.Twin.update {f : Handle → Handle} (a : h.Twin z h') (hf : Plain f) :
    (f h).Twin z (f h') where
  control := (congrArg f a.control).trans (hf.comm h h')
  queue := by
    unfold Handle.Queue
    rw [hf.out, hf.outPos]
    exact a.queue
  queue' := by
    unfold Handle.Queue
    rw [hf.out, hf.outPos]
    exact a.queue'
  pending := by
    unfold Handle.pending
    rw [hf.out, hf.outPos, hf.out, hf.outPos]
    exact a.pending
  start hz := by
    rw [hf.outPos, hf.outPos]
    exact a.start hz
  layout := by
    rw [hf.params]
    exact a.layout

theorem Handle.Twin.sameRows (a : h.Twin z h') : h'.SameRows h :=
  ⟨a.get Handle.params, a.get Handle.gamma, a.get Handle.threshold, a.get Handle.halftone,
    a.get Handle.whiteTop, a.get Handle.whiteBottom, a.get Handle.whiteLeft, a.get Handle.whiteRight⟩

theorem Handle.Twin.out_eq (a : h.Twin z h') (hz : z) : h'.out = h.out := by
  have hp := a.pending
  unfold Handle.pending at hp
  rwa [(a.start hz).1, (a.start hz).2, List.drop_zero, List.drop_zero] at hp

theorem Handle.Twin.drained (a : h.Twin z h') : h'.outPos = h'.out.length ↔ h.outPos = h.out.length := by
  have hl := congrArg List.length a.pending
  have hq : h.outPos ≤ h.out.length := a.queue
  have hq' : h'.outPos ≤ h'.out.length := a.queue'
  unfold Handle.pending at hl
  rw [List.length_drop, List.length_drop] at hl
  omega

theorem Session.Twin.paired (a : Session.Twin z b b' s s') :
    Session.Paired (Host.Along (Handle.Twin z)) Eq b b' s s' :=
  ⟨⟨a.handle, a.valid, a.allocs⟩, a.inp.symm, a.outp⟩

theorem Session.Paired.twin (a : Session.Paired (Host.Along (Handle.Twin z)) Eq b b' s s') :
    Session.Twin z b b' s s' :=
  ⟨a.host.handle, a.host.valid, a.host.allocs, a.inp.symm, a.outp⟩

theorem sim_of_paired {β : Type} {V : α → β → Prop} {m : Prog Status Session α}
    {m' : Prog Status Session β} (h : Sim (Session.Paired (Host.Along (Handle.Twin z)) Eq b b')
      (Session.Paired (Host.Along (Handle.Twin z)) Eq b b') V m m') :
    Sim (Session.Twin z b b') (Session.Twin z b b') V m m' :=
  h.mono (fun _ _ hs => hs.paired) (fun _ _ => id) fun _ _ hs => hs.twin

theorem sim_getHandle :
    Sim (Session.Twin z b b') (Session.Twin z b b') (Handle.Twin z) getHandle getHandle :=
  sim_gets fun _ _ hs => hs.handle

theorem sim_setHandle {f : Handle → Handle} (hf : Plain f := by constructor <;> intros <;> rfl) :
    Sim (Session.Twin z b b') (Session.Twin z b b') Eq (setHandle f) (setHandle f) :=
  sim_modify fun _ _ hs => ⟨hs.handle.update hf, hs.valid, hs.allocs, hs.inp, hs.outp⟩

theorem Handle.Twin.emits {f : Nat → List UInt8} {s s' t t' : Host} (hs : s.h.Twin z s'.h)
    (he : Emits f s t) (he' : Emits f s' t') (hn : t'.h.nextRow = t.h.nextRow) :
    t.h.Twin z t'.h := by
  have hc : t.h = s.h.withImage t.h := he.control
  have hc' : t'.h = s'.h.withImage t'.h := he'.control
  have hnext : s'.h.nextRow = s.h.nextRow := hs.get Handle.nextRow
  refine ⟨?_, (he.queue hs.queue).1, (he'.queue hs.queue').1, ?_,
    fun hz => ⟨he.rewound (hs.start hz).1, he'.rewound (hs.start hz).2⟩, ?_⟩
  · calc t'.h = s'.h.withImage t'.h := hc'
      _ = (s.h.withBuffers s'.h).withImage t'.h := congrArg (Handle.withImage · t'.h) hs.control
      _ = (s.h.withImage { t.h with nextRow := t'.h.nextRow }).withBuffers
          (s'.h.withImage t'.h) := rfl
      _ = t.h.withBuffers t'.h := by rw [← hc', hn, ← hc]
  · rw [(he.queue hs.queue).2, (he'.queue hs.queue').2, hn, hnext, hs.pending]
  · rw [he.control.params]
    exact hs.layout

theorem sim_emitWhiteRows (env env' : Env) (upto : Nat) :
    Sim (Host.Along (Handle.Twin z)) (Host.Along (Handle.Twin z)) Eq (emitWhiteRows env upto)
      (emitWhiteRows env' upto) := by
  refine sim_of_emits fun s s' hs => ⟨_, _, _,
    emitWhiteRows_spec (f := fun _ => s.h.params.whiteLine) env _ fun _ _ _ => rfl, ?_,
    fun t t' he he' hn hn' => hs.handle.emits he he' (hn'.trans hn.symm)⟩
  have hp : s'.h.params = s.h.params := hs.handle.get Handle.params
  have hn : s'.h.nextRow = s.h.nextRow := hs.handle.get Handle.nextRow
  have hspec := emitWhiteRows_spec (f := fun _ => s'.h.params.whiteLine) env' upto
    (s := s') fun _ _ _ => rfl
  rwa [hp, hn] at hspec

section
variable {env env' : Env} (henv : env.Agrees env')
include henv

theorem sim_placeBlock (k : Block) (hfirst : k.first < 2 ^ 32) (hrows : k.rows < 2 ^ 32) :
    Sim (Host.Along (Handle.Twin z)) (Host.Along (Handle.Twin z)) Eq (placeBlock env k)
      (placeBlock env' k) := by
  refine sim_of_emits fun s s' hs => ⟨_, _, _, placeBlock_spec env k hfirst hrows s, ?_,
    fun t t' he he' hn hn' => hs.handle.emits he he' (hn'.trans hn.symm)⟩
  have hp : s'.h.params = s.h.params := hs.handle.get Handle.params
  have hn : s'.h.nextRow = s.h.nextRow := hs.handle.get Handle.nextRow
  have hrow : blockRow env' s'.h k = blockRow env s.h k := by
    funext r
    unfold blockRow
    rw [hs.handle.sameRows.convertRow env', hp]
    split
    · exact (convertRow_bytes_congr henv hs.handle.layout (fun _ _ => rfl) r _ _).symm
    · rfl
  have hspec := placeBlock_spec env' k hfirst hrows s'
  rwa [hp, hn, hrow] at hspec

theorem twin_companions (hdbg : env'.dbgLevel = env.dbgLevel) :
    Companions env env' (Host.Along (Handle.Twin z)) where
  dbgLevel := hdbg
  flags hs := hs.handle.get Handle.flags
  source hs := congrArg OptionValues.sourceIsAdf (hs.handle.get Handle.val)
  settings hs := congrArg OptionValues.editSettings (hs.handle.get Handle.val)
  format hs := congrArg Parameters.format (hs.handle.get Handle.params)
  lines hs := congrArg Parameters.lines (hs.handle.get Handle.params)
  update fl hs :=
    ⟨hs.handle.update (f := (·.withFlags fl)) (by constructor <;> intros <;> rfl), hs.valid, hs.allocs⟩
  reserve := sim_rawReserve fun s s' t t' hh he he' hn hn' =>
    hh.emits he he' (hn'.trans ((hh.get Handle.nextRow).trans hn.symm))
  fill := sim_emitWhiteRows env env'
  place := sim_placeBlock henv

end

end PantumOpen.Scan
