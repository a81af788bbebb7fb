import PantumOpen.Status.Tool

/-! When the status tool drops the subscription that the device has from it. -/

namespace PantumOpen.Status
open Prog

variable {w : List WriteOutcome} {l : List Listening} {buf : List UInt8} {subs : List Ustatus}

def Tool.start (w : List WriteOutcome) (l : List Listening) : Tool := { writes := w, listens := l }

/-- The device has got a whole line that asks for reports. -/
def HoldsOn (bytes : List UInt8) : Prop := ∃ c, ustatusOn c <:+: bytes

/-- What the tool leaves behind: no subscription that it has not tried to drop. -/
def Dropped (t : Tool) : Prop := HoldsOn t.reached → t.unsubscribed = true

def WriteOutcome.goesOn : WriteOutcome → Bool
  | .accept _ => true
  | .again => true
  | _ => false

def WriteOutcome.count : WriteOutcome → Nat
  | .accept n => n
  | .cut n => n
  | _ => 0

/-- How many bytes there is room for before the first outcome that ends a write early. -/
def roomBefore (w : List WriteOutcome) : Nat :=
  ((w.takeWhile WriteOutcome.goesOn).map WriteOutcome.count).sum

def roomThrough (w : List WriteOutcome) : Nat :=
  roomBefore w + ((w.dropWhile WriteOutcome.goesOn).head?.elim 0 WriteOutcome.count)

theorem writeTo_nil (w : List WriteOutcome) : writeTo w [] = ⟨[], w, none⟩ := by
  cases w <;> rfl

theorem writeTo_cons (o : WriteOutcome) (w : List WriteOutcome) (hbuf : buf ≠ []) :
    writeTo (o :: w) buf = match o with
      | .accept n => (writeTo w (buf.drop n)).after (buf.take n)
      | .again => writeTo w buf
      | .late => ⟨[], w, some .blockingIOError⟩
      | .error => ⟨[], w, some .osError⟩
      | .cut n => ⟨buf.take n, w, some .stopped⟩ := by
  cases buf with
  | nil => exact absurd rfl hbuf
  | cons b buf => cases o <;> rfl

theorem writeTo_raised (w : List WriteOutcome) (buf : List UInt8) :
    (writeTo w buf).raised = none ↔ w.all WriteOutcome.goesOn = true ∨ buf.length ≤ roomBefore w := by
  induction w generalizing buf with
  | nil => simp [writeTo]
  | cons o w ih =>
    by_cases hbuf : buf = []
    · rw [hbuf, writeTo_nil]
      simp
    have hlen : 0 < buf.length := List.length_pos_iff.mpr hbuf
    rw [writeTo_cons o w hbuf]
    cases o with
    | accept n =>
      have hdrop : buf.length - n ≤ roomBefore w ↔ buf.length ≤ n + roomBefore w := by omega
      have hrest := ih (buf.drop n)
      rw [List.length_drop, hdrop] at hrest
      exact hrest
    | again =>
      have hsame : roomBefore (.again :: w) = roomBefore w := Nat.zero_add _
      rw [hsame]
      exact ih buf
    | late | error | cut n =>
      simp [roomBefore, WriteOutcome.goesOn]
      omega

theorem writeTo_taken (h : (writeTo w buf).raised = none) : (writeTo w buf).taken = buf := by
  induction w generalizing buf with
  | nil => rfl
  | cons o w ih =>
    by_cases hbuf : buf = []
    · rw [hbuf, writeTo_nil]
    rw [writeTo_cons o w hbuf] at h ⊢
    cases o with
    | accept n =>
      show buf.take n ++ (writeTo w (buf.drop n)).taken = buf
      rw [ih h, List.take_append_drop]
    | again => exact ih h
    | late | error | cut n => cases h

theorem writeTo_taken_raised (h : (writeTo w buf).raised ≠ none) :
    (writeTo w buf).taken = buf.take (roomThrough w) := by
  induction w generalizing buf with
  | nil => exact absurd rfl h
  | cons o w ih =>
    by_cases hbuf : buf = []
    · rw [hbuf, writeTo_nil] at h
      exact absurd rfl h
    rw [writeTo_cons o w hbuf] at h ⊢
    cases o with
    | accept n =>
      have hmore : roomThrough (.accept n :: w) = n + roomThrough w := Nat.add_assoc _ _ _
      rw [hmore, List.take_add, ← ih h]
      rfl
    | again =>
      have hsame : roomThrough (.again :: w) = roomThrough w := congrArg (· + _) (Nat.zero_add _)
      rw [hsame]
      exact ih h
    | late | error => rfl
    | cut n =>
      have hhere : roomThrough (.cut n :: w) = n := Nat.zero_add _
      rw [hhere]

theorem writeAll_ok (t : Tool) (h : (writeTo t.writes buf).raised = none) :
    writeAll buf t =
      (.ok (), { t with writes := (writeTo t.writes buf).left, reached := t.reached ++ buf }) := by
  unfold writeAll
  rw [read_bind, h, writeTo_taken h]
  rfl

theorem writeAll_error (t : Tool) {e : Raised} (h : (writeTo t.writes buf).raised = some e) :
    writeAll buf t = (.error e, { t with
      writes := (writeTo t.writes buf).left
      reached := t.reached ++ (writeTo t.writes buf).taken }) := by
  unfold writeAll
  rw [read_bind, h]
  rfl

theorem HoldsOn.newline {bytes : List UInt8} (h : HoldsOn bytes) : 10 ∈ bytes := by
  obtain ⟨c, hc⟩ := h
  have hline : 10 ∈ ustatusOn c := by cases c <;> decide +kernel
  exact hc.subset hline

theorem HoldsOn.equals {bytes : List UInt8} (h : HoldsOn bytes) : 61 ∈ bytes := by
  obtain ⟨c, hc⟩ := h
  have hline : 61 ∈ ustatusOn c := by cases c <;> decide +kernel
  exact hc.subset hline

theorem holdsOn_request (c : Ustatus) (cs : List Ustatus) (n : Nat) :
    HoldsOn ((ustatusRequest (c :: cs)).take n) ↔ (uel ++ ustatusOn c).length ≤ n := by
  have hreq : ustatusRequest (c :: cs) = (uel ++ ustatusOn c) ++ (cs.flatMap ustatusOn ++ uel) := by
    unfold ustatusRequest
    rw [List.flatMap_cons]
    simp only [List.append_assoc]
  rw [hreq]
  constructor
  · intro h
    by_contra hn
    -- the first line feed of the request ends its first line
    have hfirst : (10 : UInt8) ∉ (uel ++ ustatusOn c).dropLast := by cases c <;> decide +kernel
    apply hfirst
    have hmem := h.newline
    rw [List.take_append_of_le_length (by omega)] at hmem
    have hlen : n ≤ (uel ++ ustatusOn c).length - 1 := by omega
    rw [List.dropLast_eq_take]
    exact (List.take_prefix_take_left hlen).subset hmem
  · intro hn
    rw [List.take_append, List.take_of_length_le hn]
    exact ⟨c, uel, _, List.append_assoc _ _ _⟩

/-- The request is taken whole, or given up before its first line has come through. -/
def Settled (subs : List Ustatus) (w : List WriteOutcome) : Prop :=
  w.all WriteOutcome.goesOn = true ∨ (ustatusRequest subs).length ≤ roomBefore w ∨
    ∀ c ∈ subs.head?, roomThrough w < (uel ++ ustatusOn c).length

def Tool.knows (t : Tool) : Bool × Bool := (t.subscribed, t.unsubscribed)

def Tool.wrote (t : Tool) : List UInt8 × Bool × Bool := (t.reached, t.knows)

theorem Tool.wrote_knows {m : Prog Raised Tool Unit} (h : Keeps Tool.wrote m) : Keeps Tool.knows m :=
  fun t => congrArg Prod.snd (h t)

theorem keeps_notes {α : Type} {f : Tool → α} (hf : ∀ n t, f (toolNotes.set n t) = f t)
    (m : Prog Raised Notes Unit) : Keeps f (zoom toolNotes m) := keeps_zoom hf m

theorem keeps_say (text : String) : Keeps Tool.wrote (say text) := keeps_notes (fun _ _ => rfl) _

theorem keeps_listen : Keeps Tool.wrote listen := by
  intro t
  unfold listen
  rw [read_bind]
  split <;> rfl

theorem keeps_listenNoting : Keeps Tool.wrote listenNoting := by
  intro t
  unfold listenNoting
  rw [read_bind]
  have hnext : Keeps Tool.wrote
      (modify fun t => { t with listens := t.listens.tail } : Prog Raised Tool Unit) :=
    keeps_modify fun _ => rfl
  refine keeps_bind hnext (fun _ => ?_) t
  apply keeps_bind (keeps_notes (fun _ _ => rfl) _)
  intro _
  exact keeps_ite (keeps_fail _) (keeps_pure _)

theorem keeps_writeAll {α : Type} {f : Tool → α} (buf : List UInt8)
    (hf : ∀ t v bytes, (∀ c ∈ bytes, c ∈ buf) →
      f { t with writes := v, reached := t.reached ++ bytes } = f t) : Keeps f (writeAll buf) := by
  intro t
  rcases hr : (writeTo t.writes buf).raised with _ | e
  · rw [writeAll_ok t hr]
    exact hf t _ _ fun _ hc => hc
  · rw [writeAll_error t hr]
    apply hf t _ _
    intro c hc
    rw [writeTo_taken_raised (by rw [hr]; exact Option.some_ne_none e)] at hc
    exact List.mem_of_mem_take hc

theorem keeps_poll {α : Type} {f : Tool → α} (all : Bool) (hn : ∀ n t, f (toolNotes.set n t) = f t)
    (hw : Keeps f (writeAll infoStatus)) : Keeps f (poll all) := by
  apply keeps_bind (keeps_attempt hw)
  intro r
  match r with
  | .ok _ => exact keeps_pure ()
  | .error .blockingIOError => exact keeps_notes hn _
  | .error .osError | .error .valueError | .error .stopped => exact keeps_fail _

theorem keeps_watchRounds {α : Type} {f : Tool → α} (all : Bool)
    (hn : ∀ n t, f (toolNotes.set n t) = f t) (hw : Keeps f (writeAll infoStatus))
    (hl : Keeps f listen) (n : Nat) : Keeps f (watchRounds all n) := by
  induction n with
  | zero => exact keeps_pure ()
  | succ n ih =>
    exact keeps_bind (keeps_poll all hn hw) fun _ => keeps_bind hl fun _ =>
      keeps_bind (keeps_notes hn _) fun _ => ih

theorem keeps_unsubscribeTo (w : List WriteOutcome) : Keeps Tool.unsubscribed (unsubscribeTo w) := by
  have hsent (v : List WriteOutcome) (bytes : List UInt8) : Keeps Tool.unsubscribed (sent v bytes) :=
    keeps_modify fun _ => rfl
  have hlisten : Keeps Tool.unsubscribed listen := fun t => congrArg (fun b => b.2.2) (keeps_listen t)
  induction w with
  | nil => exact keeps_bind (hsent _ _) fun _ => keeps_bind hlisten fun _ => keeps_pure _
  | cons o w ih =>
    cases o with
    | accept n => exact keeps_bind (hsent _ _) fun _ => keeps_bind hlisten fun _ => keeps_pure _
    | again => exact keeps_bind (hsent _ _) fun _ => keeps_bind hlisten fun _ => ih
    | late => exact keeps_bind (hsent _ _) fun _ => keeps_bind hlisten fun _ => keeps_pure _
    | error => exact keeps_bind (hsent _ _) fun _ => keeps_pure _
    | cut n => exact keeps_bind (hsent _ _) fun _ => keeps_fail _

theorem dropSubscription_subscribed {t : Tool} (h : t.subscribed = true) :
    (dropSubscription t).2.unsubscribed = true := by
  unfold dropSubscription
  rw [read_bind, if_pos h]
  have hend (t : Tool) : (unsubscribe t).2.unsubscribed = true :=
    keeps_unsubscribeTo t.writes { t with unsubscribed := true }
  have hlast (d : Bool) : Keeps Tool.unsubscribed
      (modify fun t => { t with dropped := some d } : Prog Raised Tool Unit) :=
    keeps_modify fun _ => rfl
  exact (keeps_bind_right hlast t).trans (hend t)

theorem dropSubscription_free {t : Tool} (h : t.subscribed = false) :
    dropSubscription t = (.ok (), t) := by
  unfold dropSubscription
  rw [read_bind, if_neg (by rw [h]; decide)]
  rfl

theorem finallyDrop_state (m : Prog Raised Tool Unit) (s : Tool) :
    (finallyDrop m s).2 = (dropSubscription (m s).2).2 := by
  have hattempt : attempt m s = (.ok (m s).1, (m s).2) := rfl
  unfold finallyDrop
  rw [bind_ok hattempt]
  refine keeps_bind_right (f := id) (fun _ => ?_) (m s).2
  cases (m s).1 with
  | ok _ => exact keeps_pure ()
  | error e => exact keeps_fail e

/-- A command leaves no subscription behind when it knows of it as it ends, or there is none. -/
theorem finallyDrop_dropped {m : Prog Raised Tool Unit} {s : Tool}
    (h : (m s).2.unsubscribed = false) :
    Dropped (finallyDrop m s).2 ↔ (m s).2.subscribed = true ∨ ¬ HoldsOn (m s).2.reached := by
  unfold Dropped
  rw [finallyDrop_state]
  cases hs : (m s).2.subscribed
  · rw [dropSubscription_free hs, h]
    simp
  · simp [dropSubscription_subscribed hs]

theorem subscribe_ok (h : (writeTo w (ustatusRequest subs)).raised = none) :
    ∃ t, subscribe subs (Tool.start w l) = (.ok (), t) ∧ t.knows = (true, false) :=
  ⟨_, bind_ok (writeAll_ok (Tool.start w l) h), rfl⟩

theorem subscribe_error {e : Raised} (h : (writeTo w (ustatusRequest subs)).raised = some e) :
    ∃ t, subscribe subs (Tool.start w l) = (.error e, t) ∧ t.knows = (false, false) ∧
      t.reached = (ustatusRequest subs).take (roomThrough w) := by
  refine ⟨_, bind_error (writeAll_error (Tool.start w l) h), rfl, ?_⟩
  rw [← writeTo_taken_raised (by rw [h]; exact Option.some_ne_none e)]
  rfl

/-- The flag is set once the device has taken the whole request, and what comes after keeps it. -/
theorem subscribe_ends {c : Ustatus} {cs : List Ustatus} {m : Prog Raised Tool Unit}
    (hm : Keeps Tool.knows m) (w : List WriteOutcome) (l : List Listening) :
    let t := ((subscribe (c :: cs) >>= fun _ => m) (Tool.start w l)).2
    t.unsubscribed = false ∧
      ((t.subscribed = true ∨ ¬ HoldsOn t.reached) ↔ Settled (c :: cs) w) := by
  intro t
  have hraised := writeTo_raised w (ustatusRequest (c :: cs))
  rcases hr : (writeTo w (ustatusRequest (c :: cs))).raised with _ | e
  · obtain ⟨u, hsub, hu⟩ := @subscribe_ok w l _ hr
    have hknows : t.knows = (true, false) := by
      show Tool.knows ((subscribe (c :: cs) >>= fun _ => m) (Tool.start w l)).2 = _
      rw [bind_ok hsub, hm u, hu]
    have hsubscribed : t.subscribed = true := congrArg Prod.fst hknows
    have hsettled : Settled (c :: cs) w := by
      rcases hraised.mp hr with hall | hroom
      · exact .inl hall
      · exact .inr (.inl hroom)
    exact ⟨congrArg Prod.snd hknows, iff_of_true (.inl hsubscribed) hsettled⟩
  · obtain ⟨u, hsub, hu, hreached⟩ := @subscribe_error w l _ e hr
    have ht : t = u := by
      show ((subscribe (c :: cs) >>= fun _ => m) (Tool.start w l)).2 = _
      rw [bind_error hsub]
    have hnone : ¬ (writeTo w (ustatusRequest (c :: cs))).raised = none := by
      rw [hr]
      exact Option.some_ne_none e
    rw [hraised, not_or] at hnone
    have hfree : t.subscribed = false := by rw [ht]; exact congrArg Prod.fst hu
    refine ⟨by rw [ht]; exact congrArg Prod.snd hu, ?_⟩
    rw [hfree, ht, hreached, holdsOn_request]
    unfold Settled
    simp [hnone.1, hnone.2]

/-- How far a stream of `total` bytes gets from byte `p` on when it is offered in blocks of 4096. -/
def progress (total : Nat) : List WriteOutcome → Nat → Nat
  | [], _ => total
  | o :: w, p =>
    if total ≤ p then total
    else match o with
      | .accept n => progress total w (p + min n (min (4096 - p % 4096) (total - p)))
      | .again => progress total w p
      | .late => p
      | .error => p
      | .cut n => p + min n (min (4096 - p % 4096) (total - p))

theorem progress_cons {total p : Nat} (o : WriteOutcome) (w : List WriteOutcome) (hp : p < total) :
    progress total (o :: w) p = match o with
      | .accept n => progress total w (p + min n (min (4096 - p % 4096) (total - p)))
      | .again => progress total w p
      | .late => p
      | .error => p
      | .cut n => p + min n (min (4096 - p % 4096) (total - p)) := by
  cases o <;> exact if_neg (Nat.not_le.mpr hp)

theorem progress_end (total : Nat) (w : List WriteOutcome) : progress total w total = total := by
  rcases w with _ | ⟨o, w⟩
  · rfl
  · cases o <;> exact if_pos le_rfl

theorem writeTo_prefix (w : List WriteOutcome) (buf : List UInt8) : (writeTo w buf).taken <+: buf := by
  by_cases h : (writeTo w buf).raised = none
  · rw [writeTo_taken h]
  · rw [writeTo_taken_raised h]
    exact List.take_prefix _ _

/-- What becomes of one block decides how far the stream gets. -/
theorem progress_writeTo {total p : Nat} (hp : p < total)
    (hbuf : buf.length = min (4096 - p % 4096) (total - p)) :
    progress total w p = if (writeTo w buf).raised = none then
      progress total (writeTo w buf).left (p + buf.length) else p + (writeTo w buf).taken.length := by
  induction w generalizing p buf with
  | nil => rfl
  | cons o w ih =>
    have hne : buf ≠ [] := by
      intro hnil
      rw [hnil, List.length_nil] at hbuf
      omega
    rw [progress_cons o w hp, writeTo_cons o w hne, ← hbuf]
    cases o with
    | accept n =>
      show progress total w _ = if (writeTo w (buf.drop n)).raised = none then
        progress total (writeTo w (buf.drop n)).left _ else p + (buf.take n ++ _).length
      rcases Nat.lt_or_ge n buf.length with hn | hn
      · have hrest := @ih (buf.drop n) (p + n) (by omega) (by rw [List.length_drop]; omega)
        have hend : p + n + (buf.drop n).length = p + buf.length := by
          rw [List.length_drop]
          omega
        rw [Nat.min_eq_left hn.le, hrest, hend, List.length_append, List.length_take,
          Nat.min_eq_left hn.le, Nat.add_assoc]
      · rw [Nat.min_eq_right hn, List.drop_eq_nil_of_le hn, writeTo_nil, if_pos rfl]
    | again => exact ih hp hbuf
    | late | error => rfl
    | cut n =>
      show _ = p + (buf.take n).length
      rw [List.length_take]

theorem block_length (data : List UInt8) (k : Nat) :
    (block data k).length = min 4096 (data.length - 4096 * k) := by
  unfold block
  rw [List.length_take, List.length_drop]

theorem take_block (data : List UInt8) (k : Nat) {n : Nat} (hn : n ≤ 4096) :
    data.take (4096 * k) ++ (block data k).take n = data.take (4096 * k + n) := by
  unfold block
  rw [List.take_take, Nat.min_eq_left hn, List.take_add]

theorem sendData_reached (data : List UInt8) (s : Tool) :
    (sendData data s).2.reached = s.reached ++ data.take (progress data.length s.writes 0) := by
  -- after n blocks: all of them are written, or the sending has stopped for good
  have key (n : Nat) (hn : n ≤ (data.length + 4095) / 4096) :
      (∃ t, forIndex 0 (fun k _ => writeAll (block data k)) n () s = (.ok (), t) ∧
        t.reached = s.reached ++ data.take (4096 * n) ∧
        progress data.length t.writes (min (4096 * n) data.length) =
          progress data.length s.writes 0) ∨
      ∃ e t, forIndex 0 (fun k _ => writeAll (block data k)) n () s = (.error e, t) ∧
        t.reached = s.reached ++ data.take (progress data.length s.writes 0) := by
    induction n with
    | zero =>
      left
      exact ⟨s, rfl, by simp, by simp⟩
    | succ n ih =>
      rcases ih (by omega) with ⟨t, ht, hreached, hprogress⟩ | ⟨e, t, ht, hreached⟩
      · have hp : 4096 * n < data.length := by omega
        have hlen : (block data n).length = min (4096 - 4096 * n % 4096) (data.length - 4096 * n) := by
          rw [block_length]
          omega
        have hstep := @progress_writeTo t.writes _ _ _ hp hlen
        rw [Nat.min_eq_left hp.le] at hprogress
        rw [hprogress] at hstep
        rw [forIndex, bind_ok ht, Nat.zero_add]
        rcases hr : (writeTo t.writes (block data n)).raised with _ | e
        · left
          refine ⟨_, writeAll_ok t hr, ?_, ?_⟩
          · have hlen : (block data n).length ≤ 4096 := by
              rw [block_length]
              omega
            have hall := take_block data n le_rfl
            rw [List.take_of_length_le hlen] at hall
            show t.reached ++ block data n = _
            rw [hreached, List.append_assoc, hall]
            rfl
          · rw [hr, if_pos rfl] at hstep
            have hend : min (4096 * (n + 1)) data.length = 4096 * n + (block data n).length := by
              rw [block_length]
              omega
            rw [hstep, hend]
        · right
          refine ⟨e, _, writeAll_error t hr, ?_⟩
          have hpre := writeTo_prefix t.writes (block data n)
          have hle : (writeTo t.writes (block data n)).taken.length ≤ 4096 := by
            have hle := hpre.length_le
            rw [block_length] at hle
            omega
          rw [hr, if_neg (Option.some_ne_none e)] at hstep
          show t.reached ++ (writeTo t.writes (block data n)).taken = _
          rw [hstep, ← take_block data n hle, ← List.prefix_iff_eq_take.mp hpre, hreached,
            List.append_assoc]
      · right
        exact ⟨e, t, bind_error ht, hreached⟩
  rcases key _ le_rfl with ⟨t, ht, hreached, hprogress⟩ | ⟨e, t, ht, hreached⟩
  · have hend : min (4096 * ((data.length + 4095) / 4096)) data.length = data.length := by omega
    rw [hend, progress_end] at hprogress
    unfold sendData
    rw [ht, hreached, ← hprogress, List.take_length, List.take_of_length_le (by omega)]
  · unfold sendData
    rw [ht, hreached]

/-! ### The commands -/

theorem handled_wrote {m : Prog Raised Tool Unit} {h : Except Raised Unit → Prog Raised Tool Unit}
    (hh : ∀ r, Keeps Tool.wrote (h r)) (s : Tool) :
    ((attempt m >>= h) s).2.wrote = (m s).2.wrote := keeps_bind_right hh s

theorem keeps_info {α : Type} {f : Tool → α}
    (hf : ∀ t v bytes, 61 ∉ bytes → f { t with writes := v, reached := t.reached ++ bytes } = f t) :
    Keeps f (writeAll infoStatus) := by
  refine keeps_writeAll _ fun t v bytes hsub => hf t v bytes ?_
  intro h
  have hinfo : (61 : UInt8) ∉ infoStatus := by decide +kernel
  exact hinfo (hsub 61 h)

theorem cmdWatch_dropped (a : WatchArgs) (w : List WriteOutcome) (l : List Listening) :
    Dropped (cmdWatch a (Tool.start w l)).2 ↔ a.noSubscribe = true ∨ Settled [.device] w := by
  let m : Prog Raised Tool Unit := watchStart a >>= fun _ => watchRounds a.all a.rounds
  have hbody : (watchBody a (Tool.start w l)).2.wrote = (m (Tool.start w l)).2.wrote := by
    refine handled_wrote (fun r => ?_) _
    match r with
    | .ok _ | .error .stopped => exact keeps_pure ()
    | .error .osError | .error .valueError | .error .blockingIOError => exact keeps_fail _
  have hreached : (watchBody a (Tool.start w l)).2.reached = (m (Tool.start w l)).2.reached :=
    congrArg Prod.fst hbody
  have hsub : (watchBody a (Tool.start w l)).2.subscribed = (m (Tool.start w l)).2.subscribed :=
    congrArg (fun b => b.2.1) hbody
  have hunsub : (watchBody a (Tool.start w l)).2.unsubscribed = (m (Tool.start w l)).2.unsubscribed :=
    congrArg (fun b => b.2.2) hbody
  have hrounds : Keeps Tool.knows (watchRounds a.all a.rounds) :=
    keeps_watchRounds _ (fun _ _ => rfl) (keeps_writeAll _ fun _ _ _ _ => rfl)
      (fun t => congrArg Prod.snd (keeps_listen t)) _
  unfold cmdWatch
  cases hno : a.noSubscribe
  · have hm : m = subscribe [.device] >>= fun _ =>
        (say "-- subscribed to USTATUS DEVICE, provoke states now --" >>= fun _ =>
          watchRounds a.all a.rounds) := by
      show (watchStart a >>= _) = _
      unfold watchStart
      rw [hno]
      exact Prog.bind_assoc _ _ _
    have hkeep := keeps_bind (Tool.wrote_knows (keeps_say
      "-- subscribed to USTATUS DEVICE, provoke states now --")) fun _ => hrounds
    obtain ⟨hfree, hiff⟩ := @subscribe_ends .device [] _ hkeep w l
    rw [← hm] at hfree hiff
    rw [finallyDrop_dropped (hunsub.trans hfree), hsub, hreached, hiff]
    simp
  · -- nothing but polls is written, and they have no equals sign
    have hm : m = say "-- polling only, no subscription --" >>= fun _ =>
        watchRounds a.all a.rounds := by
      show (watchStart a >>= _) = _
      unfold watchStart
      rw [hno]
      rfl
    have hknows : (m (Tool.start w l)).2.knows = (false, false) := by
      rw [hm]
      exact keeps_bind (Tool.wrote_knows (keeps_say _)) (fun _ => hrounds) _
    have hequals : (61 ∈ (m (Tool.start w l)).2.reached) = (61 ∈ (Tool.start w l).reached) := by
      rw [hm]
      refine keeps_bind (f := fun t : Tool => (61 : UInt8) ∈ t.reached) (fun _ => rfl) (fun _ => ?_) _
      refine keeps_watchRounds _ (fun _ _ => rfl) (keeps_info fun t v bytes h => ?_) (fun t => ?_) _
      · simp [h]
      · exact congrArg (fun b => (61 : UInt8) ∈ b.1) (keeps_listen t)
    have hnone : ¬ HoldsOn (m (Tool.start w l)).2.reached := by
      intro h
      have hmem := h.equals
      rw [hequals] at hmem
      cases hmem
    rw [finallyDrop_dropped (hunsub.trans (congrArg Prod.snd hknows)), hreached]
    simp [hnone]

theorem keeps_sendData (data : List UInt8) : Keeps Tool.knows (sendData data) :=
  keeps_forIndex (fun _ _ => keeps_writeAll _ fun _ _ _ _ => rfl) _ _

theorem cmdProbeJob_dropped (a : ProbeArgs) (w : List WriteOutcome) (l : List Listening) :
    Dropped (cmdProbeJob a (Tool.start w l)).2 ↔ if a.subs = [] then
      ¬ HoldsOn (a.data.take (progress a.data.length w 0)) else Settled a.subs w := by
  let rest : Prog Raised Tool Unit := sendData a.data >>= fun _ =>
    say s!"sent {a.data.length} bytes" >>= fun _ => listenNoting
  let m : Prog Raised Tool Unit := probeStart a >>= fun _ => rest
  have hbody : (probeBody a (Tool.start w l)).2.wrote = (m (Tool.start w l)).2.wrote := by
    refine handled_wrote (fun r => ?_) _
    match r with
    | .ok _ | .error .stopped => exact keeps_pure ()
    | .error .blockingIOError => exact keeps_bind (keeps_say _) fun _ => keeps_listenNoting
    | .error .osError | .error .valueError => exact keeps_fail _
  have hreached : (probeBody a (Tool.start w l)).2.reached = (m (Tool.start w l)).2.reached :=
    congrArg Prod.fst hbody
  have hsub : (probeBody a (Tool.start w l)).2.subscribed = (m (Tool.start w l)).2.subscribed :=
    congrArg (fun b => b.2.1) hbody
  have hunsub : (probeBody a (Tool.start w l)).2.unsubscribed = (m (Tool.start w l)).2.unsubscribed :=
    congrArg (fun b => b.2.2) hbody
  have hsaid : Keeps Tool.wrote (say s!"sent {a.data.length} bytes" >>= fun _ => listenNoting) :=
    keeps_bind (keeps_say _) fun _ => keeps_listenNoting
  have hrest : Keeps Tool.knows rest :=
    keeps_bind (keeps_sendData a.data) fun _ => Tool.wrote_knows hsaid
  unfold cmdProbeJob
  -- Without a request the printer can only be asked by the data themselves.
  rcases hsubs : a.subs with _ | ⟨c, cs⟩
  · have hm : m = rest := by
      show (probeStart a >>= _) = _
      unfold probeStart
      rw [hsubs]
      rfl
    have hknows : (m (Tool.start w l)).2.knows = (false, false) := by
      rw [hm]
      exact hrest _
    have hstream : (m (Tool.start w l)).2.reached = a.data.take (progress a.data.length w 0) := by
      rw [hm]
      exact (congrArg Prod.fst (keeps_bind_right (fun _ => hsaid) _)).trans
        (sendData_reached a.data (Tool.start w l))
    rw [finallyDrop_dropped (hunsub.trans (congrArg Prod.snd hknows)), hsub, hreached, hstream,
      if_pos rfl]
    have hfree : (m (Tool.start w l)).2.subscribed = false := congrArg Prod.fst hknows
    rw [hfree]
    simp
  · let heard : Prog Raised Tool Unit := do
      let text ← listen
      zoom toolNotes (note false text)
    have hheard : Keeps Tool.knows heard :=
      keeps_bind (fun t => congrArg Prod.snd (keeps_listen t)) fun _ => keeps_notes (fun _ _ => rfl) _
    have hm : m = subscribe (c :: cs) >>= fun _ => heard >>= fun _ => rest := by
      show (probeStart a >>= _) = _
      unfold probeStart
      rw [hsubs]
      exact Prog.bind_assoc (subscribe (c :: cs)) (fun _ => heard) (fun _ => rest)
    have hkeep : Keeps Tool.knows (heard >>= fun _ => rest) := keeps_bind hheard fun _ => hrest
    obtain ⟨hfree, hiff⟩ := @subscribe_ends c cs _ hkeep w l
    rw [← hm] at hfree hiff
    rw [finallyDrop_dropped (hunsub.trans hfree), hsub, hreached, hiff, if_neg (List.cons_ne_nil c cs)]

/-- A request that was given up between its first line and its end is the one way to leave with a
subscription; without a request, only the print stream can ask for reports. -/
theorem subscription_dropped_iff (w : List WriteOutcome) (l : List Listening) :
    (∀ a : WatchArgs,
      Dropped (cmdWatch a (Tool.start w l)).2 ↔ a.noSubscribe = true ∨ Settled [.device] w) ∧
    ∀ a : ProbeArgs,
      Dropped (cmdProbeJob a (Tool.start w l)).2 ↔ if a.subs = [] then
        ¬ HoldsOn (a.data.take (progress a.data.length w 0)) else Settled a.subs w :=
  ⟨fun a => cmdWatch_dropped a w l, fun a => cmdProbeJob_dropped a w l⟩

/-- The device takes the UEL and the line, and then nothing until the time of the write is up. -/
theorem lateDevice_staysSubscribed :
    ¬ Dropped (cmdWatch ⟨false, false, 1⟩ (Tool.start [.accept 33, .late] [])).2 ∧
      ¬ Dropped (cmdProbeJob ⟨[], [.device]⟩ (Tool.start [.accept 33, .late] [])).2 := by
  constructor
  · intro h
    have hdropped := h ⟨.device, uel, [], by decide +kernel⟩
    exact absurd hdropped (by decide +kernel)
  · intro h
    have hdropped := h ⟨.device, uel, [], by decide +kernel⟩
    exact absurd hdropped (by decide +kernel)

end PantumOpen.Status
