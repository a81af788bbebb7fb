import PantumOpen.Print.Job

/-! The spools of a manual duplex job: what they hold, and that the pages come back out of them. -/

namespace PantumOpen.Print
open Prog Stdio

def slotsFrom (off : Nat) : List (List UInt8) → List PageSlot
  | [] => []
  | b :: bs => ⟨off, b.length⟩ :: slotsFrom (off + b.length) bs

def slotCap : Nat → Nat
  | 0 => 0
  | n + 1 => if n = slotCap n then if slotCap n ≠ 0 then slotCap n * 2 else 16 else slotCap n

structure PageSpool.Holds (sp : PageSpool) (bs : List (List UInt8)) : Prop where
  bytes : sp.fp.bytes = bs.flatten
  slots : sp.slots = slotsFrom 0 bs

structure PageSpool.Spooled (sp : PageSpool) (bs : List (List UInt8)) : Prop extends
    sp.Holds bs where
  pos : sp.fp.pos = sp.fp.bytes.length
  cut : sp.fp.cut = none
  cap : sp.cap = slotCap sp.slots.length

theorem PageSpool.spooled_empty : PageSpool.Spooled {} [] := ⟨⟨rfl, rfl⟩, rfl, rfl, rfl⟩

theorem slotsFrom_append (off : Nat) (bs cs : List (List UInt8)) :
    slotsFrom off (bs ++ cs) = slotsFrom off bs ++ slotsFrom (off + bs.flatten.length) cs := by
  induction bs generalizing off with
  | nil => rfl
  | cons b bs ih =>
    rw [List.cons_append, slotsFrom, slotsFrom, ih, List.flatten_cons, List.length_append,
      Nat.add_assoc, List.cons_append]

@[simp] theorem slotsFrom_length (off : Nat) (bs : List (List UInt8)) :
    (slotsFrom off bs).length = bs.length := by
  induction bs generalizing off with
  | nil => rfl
  | cons b bs ih => rw [slotsFrom, List.length_cons, List.length_cons, ih]

theorem slotsFrom_slice (pre : List UInt8) {bs : List (List UInt8)} {i : Nat} (hi : i < bs.length) :
    ∃ slot, (slotsFrom pre.length bs)[i]? = some slot ∧ slot.length = (bs.getD i []).length ∧
      ((pre ++ bs.flatten).drop slot.offset).take slot.length = bs.getD i [] := by
  induction bs generalizing pre i with
  | nil => exact absurd hi (Nat.not_lt_zero i)
  | cons b bs ih =>
    cases i with
    | zero => exact ⟨⟨pre.length, b.length⟩, rfl, rfl, by simp⟩
    | succ i =>
      obtain ⟨slot, hslot, hlen, hslice⟩ := ih (pre ++ b) (Nat.lt_of_succ_lt_succ hi)
      rw [List.length_append] at hslot
      refine ⟨slot, hslot, hlen, ?_⟩
      rw [List.flatten_cons, ← List.append_assoc]
      exact hslice

section
variable {sp : PageSpool} {bs : List (List UInt8)}

theorem PageSpool.Spooled.slots_length (h : sp.Spooled bs) : sp.slots.length = bs.length := by
  rw [h.slots, slotsFrom_length]

theorem PageSpool.Spooled.put (h : sp.Spooled bs) (b : List UInt8) :
    (sp.fp.put b).bytes = (bs ++ [b]).flatten ∧ (sp.fp.put b).pos = (sp.fp.put b).bytes.length ∧
      (sp.fp.put b).cut = none := by
  have hend : sp.fp.bytes.drop (sp.fp.pos + b.length) = [] :=
    List.drop_eq_nil_of_le (by rw [h.pos]; omega)
  refine ⟨?_, ?_, h.cut⟩
  · simp only [File.put]
    rw [hend, h.pos, List.take_length, List.append_nil, h.bytes]
    simp
  · simp only [File.put]
    rw [hend, h.pos, List.take_length, List.append_nil, List.length_append]

/-- Whether the table has room for one more page, or can be made to. -/
def marks (room : Bool) (n : Nat) : Bool := room || n != slotCap n

theorem PageSpool.Spooled.mark (h : sp.Spooled bs) (b : List UInt8) {room : Bool}
    (hroom : marks room bs.length = true) :
    ∃ sp', spoolMark room sp.fp.pos { sp with fp := sp.fp.put b } = (.ok (), sp') ∧
      sp'.Spooled (bs ++ [b]) := by
  obtain ⟨hbytes, hpos, hcut⟩ := h.put b
  have hlen := h.slots_length
  have hmark : ¬ (sp.slots.length = sp.cap && !room) = true := by
    rw [h.cap, hlen]
    unfold marks at hroom
    cases room
    · simpa using hroom
    · simp
  have hslot : (sp.fp.put b).pos - sp.fp.pos = b.length := Nat.add_sub_cancel_left _ _
  unfold spoolMark
  rw [read_bind]
  dsimp only
  rw [if_neg hmark]
  refine ⟨_, rfl, ⟨hbytes, ?_⟩, hpos, hcut, ?_⟩
  · dsimp only
    rw [hslot, slotsFrom_append, h.slots, h.pos, h.bytes, Nat.zero_add]
    rfl
  · simp only [List.length_append, List.length_singleton, slotCap, h.cap]

theorem PageSpool.Spooled.mark_error (h : sp.Spooled bs) (b : List UInt8) {room : Bool}
    (hroom : marks room bs.length = false) :
    ∃ sp', spoolMark room sp.fp.pos { sp with fp := sp.fp.put b } = (.error (), sp') := by
  have hlen := h.slots_length
  have hmark : (sp.slots.length = sp.cap && !room) = true := by
    rw [h.cap, hlen]
    unfold marks at hroom
    cases room
    · simpa using hroom
    · exact absurd hroom (by simp)
  unfold spoolMark
  rw [read_bind]
  dsimp only
  rw [if_pos hmark]
  exact ⟨_, rfl⟩

end

def Filter.copied (k : Sink) (pos : Nat) (f : File) (s : Filter) : Filter :=
  let s := (Filter.file k).set { (Filter.file k).get s with pos := pos } s
  { s with stdout := f }

section
variable {k : Sink}

theorem copied_self (hk : k ≠ .stdout) (s : Filter) :
    s.copied k ((Filter.file k).get s).pos s.stdout = s := by
  cases k
  · exact absurd rfl hk
  · rfl
  · rfl

theorem copied_copied (hk : k ≠ .stdout) (s : Filter) (pos pos' : Nat) (f f' : File) :
    (s.copied k pos f).copied k pos' f' = s.copied k pos' f' := by
  cases k
  · exact absurd rfl hk
  · rfl
  · rfl

theorem copied_file (hk : k ≠ .stdout) (s : Filter) (pos : Nat) (f : File) :
    (Filter.file k).get (s.copied k pos f) = { (Filter.file k).get s with pos := pos } := by
  cases k
  · exact absurd rfl hk
  · rfl
  · rfl

theorem copied_spool (hk : k ≠ .stdout) (s : Filter) (pos : Nat) (f : File) :
    (s.copied k pos f).spool k = { s.spool k with fp := { (s.spool k).fp with pos := pos } } := by
  cases k
  · exact absurd rfl hk
  · rfl
  · rfl

theorem spool_file (hk : k ≠ .stdout) (s : Filter) : (Filter.file k).get s = (s.spool k).fp := by
  cases k
  · exact absurd rfl hk
  · rfl
  · rfl

theorem zoom_stdout_writeAll (bs : List UInt8) (s : Filter) :
    zoom (Filter.file .stdout) (writeAll bs) s =
      ((writeAll bs s.stdout).1, { s with stdout := (writeAll bs s.stdout).2 }) := rfl

theorem zoom_fread (hk : k ≠ .stdout) (n : Nat) (s : Filter) :
    zoom (Filter.file k) (fread (ε := Unit) n) s =
      (.ok ((((Filter.file k).get s).bytes.drop ((Filter.file k).get s).pos).take n),
        s.copied k (((Filter.file k).get s).pos + ((((Filter.file k).get s).bytes.drop
          ((Filter.file k).get s).pos).take n).length) s.stdout) := by
  cases k
  · exact absurd rfl hk
  · rfl
  · rfl

/-- The copy loop passes on the bytes that stand at the position of the file. -/
theorem copyBytes_eq (hk : k ≠ .stdout) {n left : Nat} (hn : left ≤ n) {s : Filter} {bs : List UInt8}
    (hlen : bs.length = left)
    (hbs : ((((Filter.file k).get s).bytes.drop ((Filter.file k).get s).pos).take left) = bs) :
    ∃ pos, copyBytes k n left s =
      ((writeAll bs s.stdout).1, s.copied k pos (writeAll bs s.stdout).2) := by
  induction n generalizing left s bs with
  | zero =>
    obtain rfl := Nat.le_zero.mp hn
    obtain rfl := List.length_eq_zero_iff.mp hlen
    rw [writeAll_nil]
    exact ⟨_, Prod.ext rfl (copied_self hk s).symm⟩
  | succ n ih =>
    rw [copyBytes]
    -- One round reads up to 65536 bytes at the position and writes them.
    by_cases hleft : left = 0
    · subst hleft
      obtain rfl := List.length_eq_zero_iff.mp hlen
      rw [if_pos rfl, writeAll_nil]
      exact ⟨_, Prod.ext rfl (copied_self hk s).symm⟩
    rw [if_neg hleft]
    have hgot : (((Filter.file k).get s).bytes.drop ((Filter.file k).get s).pos).take (min left 65536) =
        bs.take (min left 65536) := by
      rw [← hbs, List.take_take, Nat.min_eq_left (Nat.min_le_left _ _)]
    have hgotlen : (bs.take (min left 65536)).length = min left 65536 := by
      rw [List.length_take, hlen, Nat.min_eq_left (Nat.min_le_left _ _)]
    have hread := zoom_fread hk (min left 65536) s
    rw [hgot, hgotlen] at hread
    rw [bind_ok hread, if_neg (not_not.mpr hgotlen), hgotlen]
    set q := ((Filter.file k).get s).pos + min left 65536 with hq
    have hsplit : bs.take (min left 65536) ++ bs.drop (min left 65536) = bs := List.take_append_drop _ _
    have hwrite := zoom_stdout_writeAll (bs.take (min left 65536)) (s.copied k q s.stdout)
    have hout : (s.copied k q s.stdout).stdout = s.stdout := rfl
    rw [hout] at hwrite
    rcases hw : writeAll (bs.take (min left 65536)) s.stdout with ⟨⟨⟩ | ⟨⟩, g⟩
    · rw [hw] at hwrite
      have hall := writeAll_append_error hw (bs.drop (min left 65536))
      rw [hsplit] at hall
      rw [hall]
      exact ⟨q, bind_error hwrite⟩
    · rw [hw] at hwrite
      have hall := writeAll_append_ok hw (bs.drop (min left 65536))
      rw [hsplit] at hall
      have hcopied : { s.copied k q s.stdout with stdout := g } = s.copied k q g := rfl
      rw [bind_ok hwrite, hcopied, hall]
      have hrest : (((Filter.file k).get (s.copied k q g)).bytes.drop
          ((Filter.file k).get (s.copied k q g)).pos).take (left - min left 65536) =
            bs.drop (min left 65536) := by
        rw [copied_file hk, hq, ← hbs, List.drop_take, List.drop_drop]
      obtain ⟨pos, hpos⟩ := @ih (left - min left 65536) (by omega) (s.copied k q g) _
        (by rw [List.length_drop, hlen]) hrest
      refine ⟨pos, hpos.trans ?_⟩
      rw [copied_copied hk]
      rfl

theorem spoolCopy_eq (hk : k ≠ .stdout) {s : Filter} {bs : List (List UInt8)}
    (h : (s.spool k).Holds bs) {i : Nat} (hi : i < bs.length) :
    ∃ pos, spoolCopy k i s = ((writeAll (bs.getD i []) s.stdout).1,
      s.copied k pos (writeAll (bs.getD i []) s.stdout).2) := by
  obtain ⟨slot, hslot, hlen, hslice⟩ := slotsFrom_slice [] hi
  rw [List.length_nil, ← h.slots] at hslot
  have hseek : zoom (Filter.file k) (fseek (ε := Unit) slot.offset) s =
      (.ok (), s.copied k slot.offset s.stdout) := by
    cases k
    · exact absurd rfl hk
    · rfl
    · rfl
  have hbs : ((((Filter.file k).get (s.copied k slot.offset s.stdout)).bytes.drop
      ((Filter.file k).get (s.copied k slot.offset s.stdout)).pos).take slot.length) =
        bs.getD i [] := by
    rw [copied_file hk, spool_file hk, h.bytes]
    exact hslice
  obtain ⟨pos, hpos⟩ := copyBytes_eq hk le_rfl hlen.symm hbs
  refine ⟨pos, ?_⟩
  unfold spoolCopy
  rw [gets_bind, hslot]
  rw [copied_copied hk] at hpos
  exact (bind_ok hseek).trans hpos

theorem PageSpool.Holds.moved {s : Filter} (hk : k ≠ .stdout) {bs : List (List UInt8)}
    (h : (s.spool k).Holds bs) (pos : Nat) (f : File) : ((s.copied k pos f).spool k).Holds bs := by
  rw [copied_spool hk]
  exact ⟨h.bytes, h.slots⟩

theorem spoolCopies_eq (hk : k ≠ .stdout) {s : Filter} {bs : List (List UInt8)}
    (h : (s.spool k).Holds bs) (order : Nat → Nat) {n : Nat} (hn : ∀ i < n, order i < bs.length) :
    ∃ pos, forIndex 0 (fun i _ => spoolCopy k (order i)) n () s =
      ((writeAll ((List.range n).flatMap fun i => bs.getD (order i) []) s.stdout).1,
        s.copied k pos (writeAll ((List.range n).flatMap fun i => bs.getD (order i) []) s.stdout).2) := by
  induction n with
  | zero =>
    rw [List.range_zero, List.flatMap_nil, writeAll_nil]
    exact ⟨_, Prod.ext rfl (copied_self hk s).symm⟩
  | succ n ih =>
    obtain ⟨pos, hpos⟩ := ih fun i hi => hn i (Nat.lt_succ_of_lt hi)
    rw [forIndex, Nat.zero_add, List.range_succ, List.flatMap_append]
    simp only [List.flatMap_singleton]
    rcases hw : writeAll ((List.range n).flatMap fun i => bs.getD (order i) []) s.stdout
      with ⟨⟨⟩ | ⟨⟩, g⟩ <;> rw [hw] at hpos
    · rw [writeAll_append_error hw]
      exact ⟨pos, bind_error hpos⟩
    · obtain ⟨pos', hpos'⟩ := spoolCopy_eq hk (h.moved hk pos g) (hn n (Nat.lt_succ_self n))
      rw [copied_copied hk] at hpos'
      rw [writeAll_append_ok hw, bind_ok hpos]
      exact ⟨pos', hpos'⟩

end

end PantumOpen.Print
