import PantumOpen.Scan.SideBySide

/-! Pages that are read in pieces. Reads of other sizes hand out the same bytes at other times; what
they take from the device in between is the same. -/

namespace PantumOpen.Scan
open Prog

variable {env env' : Env} {s t u : Session}

/-- The reads of a page up to the first that fails: the bytes they delivered and its status. -/
def readPage (env : Env) : List Int → Session → (List UInt8 × Option Status) × Session
  | [], s => (([], none), s)
  | n :: ns, s =>
    match saneRead env n s with
    | (.ok bs, t) =>
      let r := readPage env ns t
      ((bs ++ r.1.1, r.1.2), r.2)
    | (.error e, t) => (([], some e), t)

/-- What a read does when the queue is empty, once: it takes a frame, or notices that the job is gone,
or reports the end of the page. -/
def pageTurn (env : Env) : Prog Status Session Unit := do
  let h ← getHandle
  if h.eof then fail .eof
  else if !h.scanning then setHandle fun h => { h with eof := true }
  else do
    let _ ← takeFrame env h.nonBlocking false
    pure ()

/-- A page read to its end: turns that go on, bytes handed out in between, and a turn that fails with
nothing left in the queue. -/
inductive PageRead (env : Env) : Session → List UInt8 → Status → Session → Prop
  | hand {s t : Session} {bs : List UInt8} {st : Status} (n : Nat)
      (hn : n ≤ s.host.h.pending.length) (r : PageRead env (s.onHandle (Handle.advance n)) bs st t) :
      PageRead env s (s.host.h.pending.take n ++ bs) st t
  | goes {s t u : Session} {bs : List UInt8} {st : Status} (h : pageTurn env s = (.ok (), t))
      (r : PageRead env t bs st u) : PageRead env s bs st u
  | ended {s t : Session} {st : Status} (h : pageTurn env s = (.error st, t))
      (hnil : s.host.h.pending = []) : PageRead env s [] st t

def Turns (env : Env) : Session → Session → Prop :=
  Relation.ReflTransGen fun s t => pageTurn env s = (.ok (), t)

theorem Turns.pageRead (h : Turns env s t) {bs : List UInt8} {st : Status}
    (r : PageRead env t bs st u) : PageRead env s bs st u := by
  induction h using Relation.ReflTransGen.head_induction_on with
  | refl => exact r
  | head h _ ih => exact .goes h ih

theorem pageTurn_frame (heof : ¬ s.host.h.eof = true) (hscan : s.host.h.scanning = true) :
    pageTurn env s = (takeFrame env s.host.h.nonBlocking false >>= fun _ => pure ()) s := by
  unfold pageTurn
  rw [bind_ok (a := s.host.h) (by rfl), if_neg heof, if_neg (by rw [hscan]; decide)]

theorem pageTurn_quiet (heof : ¬ s.host.h.eof = true) (hscan : s.host.h.scanning = false) :
    pageTurn env s = (.ok (), s.onHandle fun h => { h with eof := true }) := by
  unfold pageTurn
  rw [bind_ok (a := s.host.h) (by rfl), if_neg heof, if_pos (by rw [hscan]; rfl)]
  rfl

theorem pageTurn_over (heof : s.host.h.eof = true) : pageTurn env s = (.error .eof, s) := by
  unfold pageTurn
  rw [bind_ok (a := s.host.h) (by rfl), if_pos heof]
  rfl

theorem pageTurn_pageOf {p : Parameters} {n : Nat} (hs : s.PageOf p n) :
    wp (pageTurn env) (fun _ t => t.PageOf p n) s := by
  unfold pageTurn
  rw [wp_bind, wp_getHandle, after_ok, wp_ite]
  refine ⟨fun _ => hs, fun _ => ?_⟩
  rw [wp_ite]
  refine ⟨fun _ => flagsOnly_eof.pageOf rfl hs, fun _ => ?_⟩
  rw [wp_bind]
  refine wp_takeFrame (wp_mono (pumpFrame_effect env _ false s) fun r t ht => ?_)
  match r with
  | .error _ => exact fun u hu => hu.pageOf (ht.pageOf hs)
  | .ok _ => exact ht.pageOf hs

theorem Turns.pageOf {p : Parameters} {n : Nat} (h : Turns env s t) (hs : s.PageOf p n) :
    t.PageOf p n := by
  induction h with
  | refl => exact hs
  | @tail u v _ h ih =>
    have ht : wp (pageTurn env) (fun _ t => t.PageOf p n) u := pageTurn_pageOf ih
    unfold wp at ht
    rwa [h] at ht

def FillTurns (env : Env) (s : Session) : Except Status Bool → Session → Prop
  | .ok b, t => Turns env s t ∧ (b = false → ¬ t.host.h.Starved)
  | .error e, t => ∃ u, Turns env s u ∧ u.host.h.Starved ∧ pageTurn env u = (.error e, t)

theorem fillRound_turns (h : Turns env s t) :
    wp (fillRound env) (Round (fun _ => Turns env s) (FillTurns env s)) t := by
  unfold fillRound
  rw [wp_bind, wp_getHandle, after_ok, wp_ite]
  refine ⟨fun hstarved => ?_, fun hno => ⟨h, fun _ => hno⟩⟩
  rw [wp_ite]
  refine ⟨fun hscan => ⟨h.tail (pageTurn_quiet hstarved.2 (by simpa using hscan)), fun _ hst => hst.2 rfl⟩,
    fun hscan => ?_⟩
  have hturn : pageTurn env t = _ := pageTurn_frame hstarved.2 (by simpa using hscan)
  rw [wp_bind]
  apply wp_mono (wp_outcome _ _)
  intro r u hu
  match r, hu with
  | .error e, hu => exact ⟨t, h, hstarved, hturn.trans (bind_error hu)⟩
  | .ok p, hu =>
    have hgoes : Turns env s u := h.tail (hturn.trans (bind_ok hu))
    match p with
    | .idle => exact ⟨hgoes, nofun⟩
    | .done => exact hgoes
    | .aborted _ => exact hgoes

theorem fillQueue_turns (env : Env) (s : Session) : wp (fillQueue env) (FillTurns env s) s := by
  unfold fillQueue
  rw [wp_bind, wp_read, after_ok]
  refine wp_loop_of_measure (fun _ => Turns env s) (fun _ t => t.sched.length) (fun _ t ht => ?_)
    Relation.ReflTransGen.refl (Nat.lt_succ_self _)
  refine wp_mono (wp_and (fillRound_turns ht) (fillRound_uses env t)) fun r u ⟨hu, hlt⟩ => ?_
  match r, hu, hlt with
  | .error _, hu, _ => exact hu
  | .ok (.inl _), hu, hlt => exact ⟨hu, hlt⟩
  | .ok (.inr _), hu, _ => exact hu

def ReadTurns (env : Env) (s : Session) : Except Status (List UInt8) → Session → Prop
  | .ok bs, t => ∃ u n, Turns env s u ∧ n ≤ u.host.h.pending.length ∧ bs = u.host.h.pending.take n ∧
      t = u.onHandle (Handle.advance n)
  | .error st, t => ∃ u, Turns env s u ∧ u.host.h.pending = [] ∧ pageTurn env u = (.error st, t)

theorem saneRead_turns {p : Parameters} {k : Nat} (hs : s.PageOf p k) {n : Int} (hn : 0 < n) :
    wp (saneRead env n) (ReadTurns env s) s := by
  unfold saneRead
  rw [wp_bind, wp_read, after_ok, if_neg (by simp [hs.valid, hn]), wp_bind, wp_getHandle, after_ok,
    if_neg (by rw [hs.cancelled]; decide), wp_bind]
  apply wp_mono (fillQueue_turns env s)
  intro r t ht
  match r, ht with
  | .error e, ⟨u, hu, hstarved, hturn⟩ =>
    exact ⟨u, hu, List.drop_eq_nil_of_le hstarved.1.ge, hturn⟩
  | .ok true, ⟨ht, _⟩ =>
    refine ⟨t, 0, ht, Nat.zero_le _, (List.take_zero).symm, rfl⟩
  | .ok false, ⟨ht, hno⟩ =>
    have hq : t.host.h.outPos ≤ t.host.h.out.length := (ht.pageOf hs).page.queue
    rw [after_ok, if_neg (by decide), wp_bind, wp_getHandle, after_ok]
    dsimp only
    rw [wp_ite]
    refine ⟨fun havail => ⟨t, ht, ?_, ?_⟩, fun _ => ⟨t, _, ht, ?_, rfl, rfl⟩⟩
    · exact List.drop_eq_nil_of_le (Nat.sub_eq_zero_iff_le.mp havail)
    · apply pageTurn_over
      by_contra heof
      exact hno rfl ⟨by omega, heof⟩
    · rw [Handle.pending, List.length_drop]
      exact Nat.min_le_left _ _

theorem Session.PageOf.advance {p : Parameters} {k n : Nat} (hs : s.PageOf p k)
    (hn : n ≤ s.host.h.pending.length) : (s.onHandle (Handle.advance n)).PageOf p (k + n) := by
  refine ⟨⟨hs.valid, hs.cancelled, hs.params⟩, hs.page.queue.advance hn, hs.page.rows, ?_⟩
  have hc := hs.page.count
  change k + n + (s.host.h.advance n).pending.length = s.host.h.nextRow * s.host.h.params.bytesPerLine
  rw [Handle.advance_pending, List.length_drop]
  omega

theorem readPage_pageRead {p : Parameters} {ns : List Int} (hns : ∀ n ∈ ns, 0 < n) {k : Nat}
    (hs : s.PageOf p k) {st : Status} (hst : (readPage env ns s).1.2 = some st) :
    PageRead env s (readPage env ns s).1.1 st (readPage env ns s).2 := by
  induction ns generalizing s k with
  | nil => cases hst
  | cons n ns ih =>
    have hread : ReadTurns env s (saneRead env n s).1 (saneRead env n s).2 :=
      saneRead_turns hs (hns n List.mem_cons_self)
    unfold readPage at hst ⊢
    generalize saneRead env n s = r at hread hst ⊢
    match r, hread, hst with
    | (.error e, t), ⟨u, hu, hnil, hturn⟩, hst =>
      obtain rfl : e = st := Option.some.inj hst
      exact hu.pageRead (.ended hturn hnil)
    | (.ok _, _), ⟨u, m, hu, hm, rfl, rfl⟩, hst =>
      exact hu.pageRead (.hand m hm
        (ih (fun n hn => hns n (List.mem_cons_of_mem _ hn)) ((hu.pageOf hs).advance hm) hst))

/-- A relation between handles, given what has been delivered of their pages, that survives when
more is delivered on either side. -/
structure Deliverable (H : List UInt8 → List UInt8 → Handle → Handle → Prop) : Prop where
  left : ∀ {ds ds' h h'} n, H ds ds' h h' → n ≤ h.pending.length →
    H (ds ++ h.pending.take n) ds' (h.advance n) h'
  right : ∀ {ds ds' h h'} n, H ds ds' h h' → n ≤ h'.pending.length →
    H ds (ds' ++ h'.pending.take n) h (h'.advance n)

section
variable {H : List UInt8 → List UInt8 → Handle → Handle → Prop} {I : Inp → Inp → Prop} {b b' : Outp}

theorem sim_pageTurn {K : Host → Host → Prop} (hK : Companions env env' K) (hI : Readers I) :
    Sim (Session.Paired K I b b') (Session.Paired K I b b') Eq (pageTurn env) (pageTurn env') := by
  apply paired_getHandle
  intro s s' hs
  rw [show s'.h.eof = s.h.eof from congrArg Flags.eof (hK.flags hs),
    show s'.h.scanning = s.h.scanning from congrArg Flags.scanning (hK.flags hs),
    show s'.h.nonBlocking = s.h.nonBlocking from congrArg Flags.nonBlocking (hK.flags hs)]
  exact sim_ite (fun _ => sim_fail _) fun _ => sim_ite
    (fun _ => hK.setFlags ⟨fun fl => { fl with eof := true }, fun _ => rfl⟩) fun _ =>
    sim_bind_eq (hK.takeFrame hI _ _) fun _ => sim_pure rfl

variable (hH : Deliverable H) (hK : ∀ ds ds', Companions env env' (Host.Along (H ds ds')))
  (hI : Readers I)
include hH hK hI

/-- However two such pages are read, they end alike, and what was delivered of them is related. -/
theorem PageRead.paired {s s' t t' : Session} {bs bs' : List UInt8} {st st' : Status}
    (r : PageRead env s bs st t) (r' : PageRead env' s' bs' st' t') {ds ds' : List UInt8}
    (hs : Session.Paired (Host.Along (H ds ds')) I b b' s s') :
    st' = st ∧ Session.Paired (Host.Along (H (ds ++ bs) (ds' ++ bs'))) I b b' t t' ∧
      ∃ h h', H (ds ++ bs) (ds' ++ bs') h h' ∧ h.pending = [] ∧ h'.pending = [] := by
  -- by induction on one read, and inside it on the other: either may hand out bytes first
  induction r generalizing s' bs' ds ds' with
  | hand n hn _ ih =>
    rw [← List.append_assoc]
    exact ih r' ⟨⟨hH.left n hs.host.handle hn, hs.host.valid, hs.host.allocs⟩, hs.inp, hs.outp⟩
  | @goes s t u _ _ h _ ih =>
    induction r' generalizing s ds' with
    | hand n hn _ ih' =>
      rw [← List.append_assoc]
      exact ih' h ih ⟨⟨hH.right n hs.host.handle hn, hs.host.valid, hs.host.allocs⟩, hs.inp, hs.outp⟩
    | goes h' r' _ =>
      obtain ⟨-, ht⟩ := sim_pageTurn (hK ds ds') hI _ _ hs
      rw [h, h'] at ht
      exact ih r' ht
    | ended h' _ =>
      obtain ⟨hv, -⟩ := sim_pageTurn (hK ds ds') hI _ _ hs
      rw [h, h'] at hv
      exact hv.elim
  | @ended s t _ h hnil =>
    induction r' generalizing s ds' with
    | hand n hn _ ih' =>
      rw [← List.append_assoc]
      exact ih' h hnil ⟨⟨hH.right n hs.host.handle hn, hs.host.valid, hs.host.allocs⟩, hs.inp, hs.outp⟩
    | goes h' _ _ =>
      obtain ⟨hv, -⟩ := sim_pageTurn (hK ds ds') hI _ _ hs
      rw [h, h'] at hv
      exact hv.elim
    | ended h' hnil' =>
      obtain ⟨hv, ht⟩ := sim_pageTurn (hK ds ds') hI _ _ hs
      rw [h, h'] at hv ht
      rw [List.append_nil, List.append_nil]
      exact ⟨hv, ht, _, _, hs.host.handle, hnil, hnil'⟩

end

end PantumOpen.Scan
