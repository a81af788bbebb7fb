import PantumOpen.Lib.Bytes
import PantumOpen.Status.Subscription

/-! The tool that reads the memory of the printer: what it can send to the device, and what it writes to
its file. -/

namespace PantumOpen.Status.ReadMemory
open Prog Bytes

/-- What the tool can end with: an exception of the transport, or a number that `struct.pack` refuses. -/
inductive Failure
  | raised (e : Raised)
  | structError
  deriving DecidableEq, Repr

/-- What happens next while the tool listens. `over` is the end of the wait, or a read that fails. -/
inductive Event
  | chunk (bytes : List UInt8)
  | over
  | stopped
  deriving DecidableEq, Repr

structure Header where
  opcode : Nat
  subop : Nat
  status : Nat
  dlen : Nat
  deriving DecidableEq, Repr

/-- The open device and the file. When the events are used up the device is silent. -/
structure Channel where
  writes : List WriteOutcome
  events : List Event
  reached : List UInt8 := []
  file : List UInt8 := []
  stoppedAt : Option (Nat × Option Header × Nat) := none

def enterAcl : List UInt8 := uel ++ latin1 "@PJL ENTER LANGUAGE=ACL\r\n"

def opcode : Nat := 0x00ac

def subopReadMemory : Nat := 0x0009

def blockSize : Nat := 0x40000

def writeAll (buf : List UInt8) : Prog Failure Channel Unit := do
  let c ← read
  let w := writeTo c.writes buf
  modify fun c => { c with writes := w.left, reached := c.reached ++ w.taken }
  match w.raised with
  | none => pure ()
  | some e => fail (.raised e)

/-- What a wait brings: the bytes, the events behind it, and whether a signal ended it. -/
structure Heard where
  got : List UInt8
  left : List Event
  stopped : Bool

/-- The loop of `_listen`, which ends at `want` bytes unless `want` is 0. -/
def hear (want : Nat) (got : List UInt8) : List Event → Heard
  | [] => ⟨got, [], false⟩
  | e :: es =>
    if want ≠ 0 ∧ want ≤ got.length then ⟨got, e :: es, false⟩
    else match e with
      | .chunk bytes => hear want (got ++ bytes) es
      | .over => ⟨got, es, false⟩
      | .stopped => ⟨got, es, true⟩

def listen (want : Nat) : Prog Failure Channel (List UInt8) := do
  let c ← read
  let h := hear want [] c.events
  modify fun c => { c with events := h.left }
  if h.stopped then fail (.raised .stopped) else pure h.got

def packRequest (addr : Int) (length : Nat) : Option (List UInt8) :=
  if 0 ≤ addr ∧ addr.toNat < 2 ^ 32 ∧ length < 2 ^ 32 then
    some (putBe16 opcode ++ putBe16 subopReadMemory ++ putBe32 addr.toNat ++ putBe32 length ++ putBe32 0)
  else none

def pack (addr : Int) (length : Nat) : Prog Failure Channel (List UInt8) :=
  match packRequest addr length with
  | some request => pure request
  | none => fail .structError

def readReply (reply : List UInt8) (length : Nat) : Option Header × List UInt8 :=
  if reply.length < 16 then (none, [])
  else
    let header : Header := ⟨getBe16 reply 0, getBe16 reply 2, getBe16 reply 4, getBe32 reply 6⟩
    if (header.opcode, header.subop, header.status) ≠ (opcode, subopReadMemory, 1) then (some header, [])
    else (some header, (reply.drop 16).take length)

def readMemory (addr : Int) (length : Nat) : Prog Failure Channel (Option Header × List UInt8) := do
  writeAll enterAcl
  let request ← pack addr length
  writeAll request
  writeAll uel
  let reply ← listen (16 + length)
  pure (readReply reply length)

def readBlock (base total : Int) (done : Nat) : Prog Failure Channel (Nat ⊕ Nat) :=
  if (done : Int) < total then do
    let want := min blockSize (total - done).toNat
    let r ← readMemory (base + done) want
    if r.2.length ≠ want then do
      modify fun c => { c with stoppedAt := some (done, r.1, r.2.length) }
      pure (.inr done)
    else do
      modify fun c => { c with file := c.file ++ r.2 }
      pure (.inl (done + want))
  else pure (.inr done)

/-- `main` behind its arguments: the number of bytes written. A round that goes on writes a byte at least,
so the bytes asked for bound the rounds. -/
def main (base total : Int) : Prog Failure Channel Nat := do
  let _ ← listen 0
  loop (readBlock base total) pure total.toNat 0

variable {α β : Type} {c : Channel} {w : List WriteOutcome} {buf : List UInt8}

/-- What one block tells the device when everything gets through. An address or a length that does not
fit its word leaves only the change of language. -/
def script (addr : Int) (length : Nat) : List UInt8 :=
  enterAcl ++ (packRequest addr length).elim [] (· ++ uel)

def blockLength (total k : Nat) : Nat := min blockSize (total - blockSize * k)

def blockCount (total : Nat) : Nat := (total + (blockSize - 1)) / blockSize

def requests (base : Int) (total n : Nat) : List UInt8 :=
  (List.range n).flatMap fun k : Nat => script (base + (blockSize * k : Nat)) (blockLength total k)

/-- `m` sends a part of `bytes` from the front, all of it when it returns, and leaves the file alone. -/
def Sends (bytes : List UInt8) (m : Prog Failure Channel α) : Prop := ∀ c,
  (m c).2.file = c.file ∧ ∃ part, part <+: bytes ∧ (m c).2.reached = c.reached ++ part ∧
    ∀ a, (m c).1 = .ok a → part = bytes

theorem sends_bind {xs ys : List UInt8} {m : Prog Failure Channel α} {f : α → Prog Failure Channel β}
    (hm : Sends xs m) (hf : ∀ a, Sends ys (f a)) : Sends (xs ++ ys) (m >>= f) := by
  intro c
  obtain ⟨hfile, part, hpart, hreached, hall⟩ := hm c
  rcases hrun : m c with ⟨r, d⟩
  rw [hrun] at hfile hreached hall
  cases r with
  | error e =>
    rw [bind_error hrun]
    exact ⟨hfile, part, hpart.trans (List.prefix_append _ _), hreached, fun a h => (by cases h)⟩
  | ok a =>
    obtain ⟨hfile', part', hpart', hreached', hall'⟩ := hf a d
    rw [bind_ok hrun]
    obtain rfl := hall a rfl
    refine ⟨hfile'.trans hfile, part ++ part', (List.prefix_append_right_inj _).mpr hpart', ?_, ?_⟩
    · rw [hreached', hreached, List.append_assoc]
    · intro b hb
      rw [hall' b hb]

theorem sends_nothing {m : Prog Failure Channel α}
    (h : ∀ c, (m c).2.file = c.file ∧ (m c).2.reached = c.reached) : Sends [] m := by
  intro c
  refine ⟨(h c).1, [], List.prefix_rfl, ?_, fun _ _ => rfl⟩
  rw [(h c).2, List.append_nil]

theorem sends_writeAll (buf : List UInt8) : Sends buf (writeAll buf) := by
  intro c
  unfold writeAll
  rw [read_bind]
  cases hr : (writeTo c.writes buf).raised with
  | none =>
    refine ⟨rfl, buf, List.prefix_rfl, ?_, fun _ _ => rfl⟩
    change c.reached ++ _ = _
    rw [writeTo_taken hr]
  | some e =>
    refine ⟨rfl, (writeTo c.writes buf).taken, ?_, rfl, fun a h => (by cases h)⟩
    rw [writeTo_taken_raised (by rw [hr]; exact Option.some_ne_none e)]
    exact List.take_prefix _ _

theorem sends_listen (want : Nat) : Sends [] (listen want) := by
  apply sends_nothing
  intro c
  unfold listen
  rw [read_bind]
  split <;> exact ⟨rfl, rfl⟩

/-- The request for one block is all that can be sent for it. -/
theorem sends_readMemory (addr : Int) (length : Nat) :
    Sends (script addr length) (readMemory addr length) := by
  unfold script readMemory pack
  apply sends_bind (sends_writeAll enterAcl)
  intro _
  cases packRequest addr length with
  | none => exact sends_nothing fun c => ⟨rfl, rfl⟩
  | some request =>
    have hreply := sends_bind (sends_listen (16 + length)) fun reply =>
      sends_nothing (m := pure (readReply reply length)) fun c => ⟨rfl, rfl⟩
    have hrest := sends_bind (sends_writeAll request) fun _ =>
      sends_bind (sends_writeAll uel) fun _ => hreply
    rw [List.append_nil, List.append_nil] at hrest
    exact hrest

theorem requests_succ (base : Int) (total n : Nat) : requests base total (n + 1) =
    requests base total n ++ script (base + (blockSize * n : Nat)) (blockLength total n) := by
  unfold requests
  rw [List.range_succ, List.flatMap_append, List.flatMap_singleton]

/-- What the loop has done after `done` bytes: whole blocks, or all of them. -/
structure Progressed (base : Int) (total done : Nat) (c : Channel) : Prop where
  length : c.file.length = done
  le : done ≤ total
  sent : ∃ k, k ≤ blockCount total ∧ c.reached = requests base total k ∧
    (done = blockSize * k ∨ done = total)

def OnlyReads (base : Int) (total : Nat) (c : Channel) : Prop :=
  ∃ n, n ≤ blockCount total ∧ c.reached <+: requests base total n

/-- What the tool has told the device when it ends, and what it says of its file. -/
structure Reported (base : Int) (total : Nat) (r : Except Failure Nat) (c : Channel) : Prop where
  sent : OnlyReads base total c
  length : ∀ n, r = .ok n → c.file.length = n ∧ n ≤ total
  stopped : ∀ n, r = .ok n → n < total → ∃ header got, c.stoppedAt = some (n, header, got)

theorem Progressed.onlyReads {base : Int} {total done : Nat} (h : Progressed base total done c) :
    OnlyReads base total c := by
  obtain ⟨k, hk, hreached, -⟩ := h.sent
  exact ⟨k, hk, hreached ▸ List.prefix_rfl⟩

theorem reported_error {base : Int} {total : Nat} (e : Failure) (h : OnlyReads base total c) :
    Reported base total (.error e) c :=
  ⟨h, fun _ hn => (by cases hn), fun _ hn => (by cases hn)⟩

theorem Progressed.reported {base : Int} {total done : Nat} (h : Progressed base total done c)
    (hdone : total ≤ done) : Reported base total (.ok done) c := by
  refine ⟨h.onlyReads, fun n hn => ?_, fun n hn hless => ?_⟩
  · cases hn
    exact ⟨h.length, h.le⟩
  · cases hn
    exact absurd hdone (not_le.mpr hless)

theorem lt_blockCount {total k : Nat} (h : blockSize * k < total) : k < blockCount total := by
  unfold blockCount
  have hpos : 0 < blockSize := by decide
  rw [Nat.lt_div_iff_mul_lt hpos, Nat.mul_comm]
  omega

theorem want_eq (total k : Nat) :
    min blockSize ((total : Int) - (blockSize * k : Nat)).toNat = blockLength total k := by
  unfold blockLength
  omega

theorem blockLength_pos {total k : Nat} (h : blockSize * k < total) : 0 < blockLength total k := by
  have hpos : 0 < blockSize := by decide
  unfold blockLength
  omega

theorem block_end {total k : Nat} (h : blockSize * k < total) :
    blockSize * k + blockLength total k ≤ total ∧
      (blockSize * k + blockLength total k = blockSize * (k + 1) ∨
        blockSize * k + blockLength total k = total) := by
  unfold blockLength
  rw [Nat.mul_succ]
  omega

theorem Progressed.next {base : Int} {total done : Nat} (h : Progressed base total done c)
    (hlt : done < total) : ∃ k, done = blockSize * k ∧ k + 1 ≤ blockCount total ∧
      requests base total (k + 1) = c.reached ++ script (base + done) (blockLength total k) := by
  obtain ⟨k, -, hreached, hwhole⟩ := h.sent
  obtain rfl := hwhole.resolve_right hlt.ne
  exact ⟨k, rfl, lt_blockCount hlt, by rw [requests_succ, hreached]⟩

theorem readBlock_progressed (base : Int) {total done : Nat} (h : Progressed base total done c) :
    wp (readBlock base total done) (Round (fun done' d => Progressed base total done' d ∧ done < done')
      (Reported base total)) c := by
  unfold readBlock
  rw [wp_ite]
  constructor
  · intro hlt
    have hmore : done < total := Int.ofNat_lt.mp hlt
    obtain ⟨k, rfl, hcount, hscript⟩ := h.next hmore
    obtain ⟨hle, hwhole⟩ := block_end hmore
    have hpos := blockLength_pos hmore
    dsimp only
    rw [want_eq, wp_bind]
    obtain ⟨hfile, part, hpart, hsent, hall⟩ :=
      sends_readMemory (base + (blockSize * k : Nat)) (blockLength total k) c
    rcases hrun : readMemory (base + (blockSize * k : Nat)) (blockLength total k) c with ⟨r, d⟩
    rw [hrun] at hfile hsent hall
    rw [wp, hrun]
    -- Of a request that could not be written whole, a part may have reached the device.
    cases r with
    | error e =>
      refine reported_error e ⟨k + 1, hcount, ?_⟩
      rw [hscript, hsent]
      exact (List.prefix_append_right_inj _).mpr hpart
    | ok x =>
      rw [hall x rfl, ← hscript] at hsent
      have hlength : d.file.length = blockSize * k := by rw [hfile, h.length]
      rw [after_ok, wp_ite]
      constructor
      · intro _
        rw [wp_bind, wp_modify, after_ok, wp_pure]
        refine ⟨⟨k + 1, hcount, hsent ▸ List.prefix_rfl⟩, fun n hn => ?_, fun n hn _ => ?_⟩
        · cases hn
          exact ⟨hlength, h.le⟩
        · cases hn
          exact ⟨x.1, x.2.length, rfl⟩
      · intro hfull
        rw [wp_bind, wp_modify, after_ok, wp_pure]
        refine ⟨⟨?_, hle, k + 1, hcount, hsent, hwhole⟩, Nat.lt_add_of_pos_right hpos⟩
        change (d.file ++ x.2).length = _
        rw [List.length_append, hlength, not_not.mp hfull]
  · exact fun hge => h.reported (not_lt.mp (mt Int.ofNat_lt.mpr hge))

def Channel.start (w : List WriteOutcome) (es : List Event) : Channel := { writes := w, events := es }

theorem main_reported (base : Int) (total : Nat) (w : List WriteOutcome) (es : List Event) :
    wp (main base total) (Reported base total) (.start w es) := by
  unfold main
  rw [wp_bind, Int.toNat_natCast]
  obtain ⟨hfile, part, hpart, hsent, -⟩ := sends_listen 0 (.start w es)
  obtain rfl := List.prefix_nil.mp hpart
  rcases hrun : listen 0 (.start w es) with ⟨r, d⟩
  rw [hrun] at hfile hsent
  have hstart : Progressed base total 0 d :=
    ⟨by rw [hfile]; rfl, Nat.zero_le _, 0, Nat.zero_le _, by rw [hsent]; rfl, .inl rfl⟩
  rw [wp, hrun]
  cases r with
  | error e => exact reported_error e hstart.onlyReads
  | ok stale =>
    rw [after_ok]
    apply wp_loop_counted (fun k done c => Progressed base total done c ∧ k ≤ done)
    · intro k done c _ h
      apply wp_mono (readBlock_progressed base h.1)
      intro r d hr
      rcases r with e | next | n
      · exact hr
      · exact ⟨hr.1, h.2.trans_lt hr.2⟩
      · exact hr
    · exact fun done c h => h.1.reported h.2
    · exact ⟨hstart, le_rfl⟩

/-! ### A device that answers -/

def memoryAt (mem : Nat → UInt8) (addr length : Nat) : List UInt8 := (List.range' addr length).map mem

def replyTo (mem : Nat → UInt8) (addr length : Nat) : List UInt8 :=
  putBe16 opcode ++ (putBe16 subopReadMemory ++ (putBe16 1 ++ (putBe32 length ++
    (List.replicate 6 0 ++ memoryAt mem addr length))))

/-- The device answers the requests from block `k` on, its replies cut into any pieces. -/
inductive Answers (mem : Nat → UInt8) (base total : Nat) : Nat → List Event → Prop
  | all {k : Nat} {es : List Event} (h : total ≤ blockSize * k) : Answers mem base total k es
  | block {k : Nat} {cs : List (List UInt8)} {es : List Event}
      (hcs : cs.flatten = replyTo mem (base + blockSize * k) (blockLength total k))
      (hne : ∀ c ∈ cs, c ≠ []) (hes : Answers mem base total (k + 1) es) :
      Answers mem base total k (cs.map .chunk ++ es)

variable {mem : Nat → UInt8} {addr length : Nat} {cs : List (List UInt8)} {es : List Event}

theorem memoryAt_length (mem : Nat → UInt8) (addr length : Nat) :
    (memoryAt mem addr length).length = length := by
  rw [memoryAt, List.length_map, List.length_range']

theorem memoryAt_append (mem : Nat → UInt8) (addr m n : Nat) :
    memoryAt mem addr m ++ memoryAt mem (addr + m) n = memoryAt mem addr (m + n) := by
  unfold memoryAt
  rw [← List.map_append, List.range'_append_1]

theorem replyTo_length (mem : Nat → UInt8) (addr length : Nat) :
    (replyTo mem addr length).length = 16 + length := by
  unfold replyTo
  simp only [List.length_append, putBe16_length, putBe32_length, List.length_replicate, memoryAt_length]
  omega

theorem readReply_replyTo (mem : Nat → UInt8) (addr : Nat) (hlen : length < 2 ^ 32) :
    readReply (replyTo mem addr length) length =
      (some ⟨opcode, subopReadMemory, 1, length⟩, memoryAt mem addr length) := by
  have hlong : ¬(replyTo mem addr length).length < 16 := by
    rw [replyTo_length]
    omega
  have hop : getBe16 (replyTo mem addr length) 0 = opcode := getBe16_at (by decide) [] _ rfl
  have hsub : getBe16 (replyTo mem addr length) 2 = subopReadMemory :=
    getBe16_at (by decide) (putBe16 opcode) _ rfl
  have hstatus : getBe16 (replyTo mem addr length) 4 = 1 :=
    getBe16_at (by decide) (putBe16 opcode ++ putBe16 subopReadMemory) _ rfl
  have hdlen : getBe32 (replyTo mem addr length) 6 = length :=
    getBe32_at hlen (putBe16 opcode ++ putBe16 subopReadMemory ++ putBe16 1) _ rfl
  have hdata : (replyTo mem addr length).drop 16 = memoryAt mem addr length := rfl
  unfold readReply
  rw [if_neg hlong, hop, hsub, hstatus, hdlen, hdata,
    List.take_of_length_le (memoryAt_length mem addr length).le]
  exact if_neg (not_not.mpr rfl)

theorem hear_chunks {want : Nat} (hwant : want ≠ 0) (hne : ∀ c ∈ cs, c ≠ []) (got : List UInt8)
    (hlen : got.length + cs.flatten.length = want) (es : List Event) :
    hear want got (cs.map .chunk ++ es) = ⟨got ++ cs.flatten, es, false⟩ := by
  induction cs generalizing got with
  | nil =>
    rw [List.flatten_nil, List.append_nil]
    cases es with
    | nil => rfl
    | cons e es =>
      have hfull : want ≠ 0 ∧ want ≤ got.length := ⟨hwant, by simpa using hlen.ge⟩
      exact if_pos hfull
  | cons c cs ih =>
    have hpos := List.length_pos_iff.mpr (hne c List.mem_cons_self)
    rw [List.flatten_cons, List.length_append] at hlen
    have hshort : ¬(want ≠ 0 ∧ want ≤ got.length) := by omega
    rw [List.map_cons, List.cons_append, hear, if_neg hshort,
      ih (fun d hd => hne d (List.mem_cons_of_mem _ hd)) (got ++ c)
        (by rw [List.length_append]; omega), List.flatten_cons, List.append_assoc]

theorem hear_stale (stale : List (List UInt8)) (got : List UInt8) (es : List Event) :
    hear 0 got (stale.map .chunk ++ .over :: es) = ⟨got ++ stale.flatten, es, false⟩ := by
  induction stale generalizing got with
  | nil => rw [List.flatten_nil, List.append_nil]; rfl
  | cons c stale ih =>
    rw [List.map_cons, List.cons_append, hear, if_neg (fun h => h.1 rfl), ih, List.flatten_cons,
      List.append_assoc]

theorem runs_listen {want : Nat} {got : List UInt8} (h : hear want [] c.events = ⟨got, es, false⟩) :
    Runs (listen want) (fun r d => r = got ∧ d = { c with events := es }) c := by
  refine ⟨got, { c with events := es }, ?_, rfl, rfl⟩
  unfold listen
  rw [read_bind, h]
  rfl

theorem writeTo_goesOn (hw : w.all WriteOutcome.goesOn = true) :
    (writeTo w buf).left.all WriteOutcome.goesOn = true := by
  induction w generalizing buf with
  | nil => rfl
  | cons o w ih =>
    by_cases hbuf : buf = []
    · rw [hbuf, writeTo_nil]
      exact hw
    obtain ⟨ho, hrest⟩ := Bool.and_eq_true_iff.mp hw
    rw [writeTo_cons o w hbuf]
    cases o with
    | accept n => exact ih hrest
    | again => exact ih hrest
    | late | error | cut n => cases ho

theorem runs_writeAll (hw : c.writes.all WriteOutcome.goesOn = true) (buf : List UInt8) :
    Runs (writeAll buf) (fun _ d => d.writes.all WriteOutcome.goesOn = true ∧ d.events = c.events ∧
      d.file = c.file) c := by
  have hraised := (writeTo_raised c.writes buf).mpr (.inl hw)
  have hrun : writeAll buf c = (.ok (), { c with
      writes := (writeTo c.writes buf).left
      reached := c.reached ++ (writeTo c.writes buf).taken }) := by
    unfold writeAll
    rw [read_bind, hraised]
    rfl
  exact ⟨(), _, hrun, writeTo_goesOn hw, rfl, rfl⟩

theorem packRequest_some (haddr : addr < 2 ^ 32) (hlen : length < 2 ^ 32) :
    ∃ request, packRequest addr length = some request :=
  ⟨_, if_pos ⟨Int.natCast_nonneg addr, haddr, hlen⟩⟩

theorem runs_readMemory (hw : c.writes.all WriteOutcome.goesOn = true) (haddr : addr < 2 ^ 32)
    (hlen : length < 2 ^ 32) (hcs : cs.flatten = replyTo mem addr length) (hne : ∀ c ∈ cs, c ≠ [])
    (hes : c.events = cs.map .chunk ++ es) :
    Runs (readMemory addr length) (fun r d => r.2 = memoryAt mem addr length ∧
      d.writes.all WriteOutcome.goesOn = true ∧ d.events = es ∧ d.file = c.file) c := by
  obtain ⟨request, hrequest⟩ := packRequest_some haddr hlen
  unfold readMemory pack
  rw [hrequest]
  apply (runs_writeAll hw enterAcl).bind
  rintro _ d₁ ⟨hw₁, he₁, hf₁⟩
  apply (@runs_pure Failure Channel _ request (fun r d => r = request ∧ d = d₁) d₁ ⟨rfl, rfl⟩).bind
  rintro _ _ ⟨rfl, rfl⟩
  apply (runs_writeAll hw₁ _).bind
  rintro _ d₂ ⟨hw₂, he₂, hf₂⟩
  apply (runs_writeAll hw₂ uel).bind
  rintro _ d₃ ⟨hw₃, he₃, hf₃⟩
  have hheard : hear (16 + length) [] d₃.events = ⟨cs.flatten, es, false⟩ := by
    rw [he₃, he₂, he₁, hes]
    apply hear_chunks (by omega) hne
    rw [hcs, replyTo_length, List.length_nil, Nat.zero_add]
  apply (runs_listen hheard).bind
  rintro _ _ ⟨rfl, rfl⟩
  apply runs_pure
  rw [hcs, readReply_replyTo mem addr hlen]
  exact ⟨rfl, hw₃, rfl, hf₃.trans (hf₂.trans hf₁)⟩

theorem Answers.next {base total k : Nat} (h : Answers mem base total k es) (hk : blockSize * k < total) :
    ∃ (cs : List (List UInt8)) (es' : List Event), es = cs.map .chunk ++ es' ∧ (∀ c ∈ cs, c ≠ []) ∧
      cs.flatten = replyTo mem (base + blockSize * k) (blockLength total k) ∧
      Answers mem base total (k + 1) es' := by
  cases h with
  | all hall => exact absurd hk (not_lt.mpr hall)
  | block hcs hne hes => exact ⟨_, _, rfl, hne, hcs, hes⟩

structure Served (mem : Nat → UInt8) (base total done : Nat) (c : Channel) : Prop where
  writes : c.writes.all WriteOutcome.goesOn = true
  file : c.file = memoryAt mem base done
  le : done ≤ total
  answers : done < total → ∃ k, done = blockSize * k ∧ Answers mem base total k c.events

theorem readBlock_served {base total done : Nat} (hfit : base + total ≤ 2 ^ 32)
    (h : Served mem base total done c) (hlt : done < total) :
    Runs (readBlock base total done)
      (fun r d => ∃ n, r = .inl n ∧ done < n ∧ Served mem base total n d) c := by
  obtain ⟨k, rfl, hans⟩ := h.answers hlt
  obtain ⟨cs, es, hes, hne, hcs, hnext⟩ := hans.next hlt
  obtain ⟨hle, hwhole⟩ := block_end hlt
  have hpos := blockLength_pos hlt
  have haddr : base + blockSize * k < 2 ^ 32 := by omega
  have hsmall : blockLength total k < 2 ^ 32 := (min_le_left _ _).trans_lt (by decide)
  have hread := runs_readMemory h.writes haddr hsmall hcs hne hes
  rw [Nat.cast_add] at hread
  unfold readBlock
  rw [if_pos (Int.ofNat_lt.mpr hlt)]
  dsimp only
  rw [want_eq]
  apply hread.bind
  rintro r d ⟨hr, hw, he, hf⟩
  rw [if_neg (not_not.mpr (by rw [hr, memoryAt_length]))]
  refine ⟨_, { d with file := d.file ++ r.2 }, rfl, _, rfl, Nat.lt_add_of_pos_right hpos, hw, ?_, hle, ?_⟩
  · change d.file ++ r.2 = _
    rw [hf, h.file, hr, memoryAt_append]
  · exact fun hmore => ⟨k + 1, hwhole.resolve_right hmore.ne, he ▸ hnext⟩

/-- A device that takes the requests and answers them has all of its memory read. -/
theorem main_served {base total : Nat} (hfit : base + total ≤ 2 ^ 32) (hw : w.all WriteOutcome.goesOn = true)
    (hans : Answers mem base total 0 es) (stale : List (List UInt8)) :
    wp (main base total) (fun r d => r = .ok total ∧ d.file = memoryAt mem base total)
      (.start w (stale.map .chunk ++ .over :: es)) := by
  have hheard : hear 0 [] (Channel.start w (stale.map .chunk ++ .over :: es)).events =
      ⟨[] ++ stale.flatten, es, false⟩ := hear_stale stale [] es
  obtain ⟨got, c, hrun, -, rfl⟩ := runs_listen hheard
  unfold main
  rw [wp_bind, wp, hrun, after_ok, Int.toNat_natCast]
  apply wp_loop_counted (fun k done c => Served mem base total done c ∧ k ≤ done)
  · intro k done c hk h
    by_cases hlt : done < total
    · obtain ⟨r, d, hblock, n, rfl, hn, hserved⟩ := readBlock_served hfit h.1 hlt
      rw [wp, hblock]
      exact ⟨hserved, h.2.trans_lt hn⟩
    · have hdone : done = total := le_antisymm h.1.le (not_lt.mp hlt)
      unfold readBlock
      rw [if_neg (by omega)]
      exact ⟨congrArg Except.ok hdone, hdone ▸ h.1.file⟩
  · intro done c h
    have hdone : done = total := le_antisymm h.1.le h.2
    exact ⟨congrArg Except.ok hdone, hdone ▸ h.1.file⟩
  · exact ⟨⟨hw, rfl, Nat.zero_le _, fun _ => ⟨0, rfl, hans⟩⟩, le_rfl⟩

theorem main_toNat (base total : Int) : main base total = main base total.toNat := by
  unfold main
  rw [Int.toNat_natCast]
  by_cases h : 0 ≤ total
  · rw [Int.toNat_of_nonneg h]
  · rw [Int.toNat_eq_zero.mpr (not_le.mp h).le]
    rfl

/-- The tool can only ask for memory: whatever the device does, it has been told nothing but the requests
for the blocks, in order, up to some point, and the file has the length that the tool reports, which is all
that was asked for unless the tool says where it stopped. A device that grants the requests has its memory
in the file. -/
theorem memory_readOnly (w : List WriteOutcome) (es : List Event) :
    (∀ base total : Int, wp (main base total) (Reported base total.toNat) (.start w es)) ∧
    ∀ (mem : Nat → UInt8) (base total : Nat) (stale : List (List UInt8)), base + total ≤ 2 ^ 32 →
      w.all WriteOutcome.goesOn = true → Answers mem base total 0 es →
      wp (main base total) (fun r d => r = .ok total ∧ d.file = memoryAt mem base total)
        (.start w (stale.map .chunk ++ .over :: es)) := by
  constructor
  · intro base total
    rw [main_toNat]
    exact main_reported base total.toNat w es
  · exact fun mem base total stale hfit hw hans => main_served hfit hw hans stale

def sampleMemory (addr : Nat) : UInt8 := UInt8.ofNat addr

/-- The replies to the requests for five bytes more than a block. -/
def firstReply : List UInt8 := replyTo sampleMemory 0xF6000000 blockSize

def secondReply : List UInt8 := replyTo sampleMemory (0xF6000000 + blockSize) 5

theorem twoReplies_answer : Answers sampleMemory 0xF6000000 (blockSize + 5) 0
    ([firstReply.take 9, firstReply.drop 9].map Event.chunk ++ ([secondReply].map Event.chunk ++ [])) := by
  have hfirst : firstReply.length = 16 + blockSize := replyTo_length _ _ _
  have hsecond : secondReply.length = 16 + 5 := replyTo_length _ _ _
  refine .block ?_ ?_ (.block (List.flatten_singleton ..) ?_ (.all (by decide)))
  · rw [List.flatten_cons, List.flatten_singleton]
    exact List.take_append_drop 9 firstReply
  · refine List.forall_mem_cons.mpr ⟨?_, List.forall_mem_singleton.mpr ?_⟩
    · rw [← List.length_pos_iff_ne_nil, List.length_take]
      omega
    · rw [← List.length_pos_iff_ne_nil, List.length_drop]
      omega
  · refine List.forall_mem_singleton.mpr ?_
    rw [← List.length_pos_iff_ne_nil]
    omega

theorem memory_readOnly_twoBlocks :
    wp (main 0xF6000000 (blockSize + 5 : Nat))
      (fun r d => r = .ok (blockSize + 5 : Nat) ∧
        d.file = memoryAt sampleMemory 0xF6000000 (blockSize + 5))
      (.start [.again, .accept 3] (.chunk [7] :: .over ::
        [.chunk (firstReply.take 9), .chunk (firstReply.drop 9), .chunk secondReply])) :=
  (memory_readOnly [.again, .accept 3] _).2 sampleMemory 0xF6000000 (blockSize + 5) [[7]] (by decide)
    (by decide) twoReplies_answer

end PantumOpen.Status.ReadMemory
