import PantumOpen.Scan.PageCount
import PantumOpen.Scan.Wire

/-! What one data block does to the page, whatever its place on it. -/

namespace PantumOpen.Scan
open Prog Bytes Buffer

variable {env : Env} {plen : Nat} {head raw : List UInt8} {s : Session}

/-- The sub-header `head` of a frame of `plen` bytes passes the checks of `handle_data_block`. -/
structure Parameters.Accepts (p : Parameters) (plen : Nat) (head : List UInt8) : Prop where
  header : pantumDataHeaderLen ≤ plen
  type : getBe32 head 0 ≠ dataJpeg
  rows : getBe32 head 8 ≠ 0
  planes : getBe32 head 12 ≠ 0
  fits : getBe32 head 12 ≤ (plen - pantumDataHeaderLen) / getBe32 head 8
  format : getBe32 head 12 = p.planes

def Block.ofFrame (plen : Nat) (head raw : List UInt8) : Block where
  first := getBe32 head 4
  rows := getBe32 head 8
  avail := min ((plen - pantumDataHeaderLen) / getBe32 head 8 / getBe32 head 12) (getBe32 head 16)
  stride := (plen - pantumDataHeaderLen) / getBe32 head 8
  raw := raw

def Inp.YieldsBlock (i : Inp) (plen : Nat) (head raw : List UInt8) : Prop :=
  ∃ j k, usbRead pantumDataHeaderLen i = (.ok head, j) ∧
    usbRead (plen - pantumDataHeaderLen) j = (.ok raw, k)

theorem handleDataBlock_accepted (env : Env) {j k : Inp} {t : Host}
    (hacc : s.host.h.params.Accepts plen head)
    (hhead : usbRead pantumDataHeaderLen s.inp = (.ok head, j))
    (hreserve : rawReserve (plen - pantumDataHeaderLen) s.host = (.ok true, t))
    (hraw : usbRead (plen - pantumDataHeaderLen) j = (.ok raw, k)) :
    handleDataBlock env plen s =
      onHost (placeBlock env (Block.ofFrame plen head raw)) { s with host := t, inp := k } := by
  have hzoom {β : Type} {m : Prog Status Inp β} {b : β} {i i' : Inp} {u : Session}
      (h : m i = (.ok b, i')) (hu : u.inp = i) : onInp m u = (.ok b, { u with inp := i' }) := by
    subst hu
    simp only [onInp, zoom, inpLens, h]
  have hreserved : onHost (rawReserve (plen - pantumDataHeaderLen)) { s with inp := j } =
      (.ok true, { s with host := t, inp := j }) := by
    simp only [onHost, zoom, hostLens, hreserve]
  have hcounts : ¬ (getBe32 head 8 = 0 ∨ getBe32 head 12 = 0 ∨
      (plen - pantumDataHeaderLen) / getBe32 head 8 < getBe32 head 12) := by
    rintro (h | h | h)
    · exact hacc.rows h
    · exact hacc.planes h
    · exact Nat.not_lt.mpr hacc.fits h
  have hplanes : ¬ getBe32 head 12 ≠ (if s.host.h.params.format = .rgb then 3 else 1) :=
    not_not.mpr hacc.format
  unfold handleDataBlock
  rw [if_neg (Nat.not_lt.mpr hacc.header), bind_ok (hzoom hhead rfl)]
  dsimp only
  rw [bind_ok (a := s.host.h) (by rfl), if_neg hacc.type, if_neg hcounts,
    if_neg hplanes, bind_ok hreserved, if_pos rfl, bind_ok (hzoom hraw rfl)]
  rfl

/-- The rows of `b` are placed from state `s` on: the page grows to the row behind the block's last
one, unless it is there already or ends before, and the rows it gains are those of the block where
the block has them and white elsewhere. -/
structure Placed (env : Env) (b : Block) (h h' : Handle) : Prop where
  control : SameControl h h'
  next : h'.nextRow = max h.nextRow (min h.params.lines (b.first + b.rows))
  pending : h'.pending = h.pending ++ concatRange (blockRow env h b) h.nextRow
    (max h.nextRow (min h.params.lines (b.first + b.rows)))

theorem Block.target_of_lines {b : Block} {lines next : Nat} (h : lines < 2 ^ 31) :
    b.target lines next = max next (min lines (b.first + b.rows)) := by
  unfold target
  omega

theorem placeBlock_placed (env : Env) {b : Block} (hfirst : b.first < 2 ^ 32) (hrows : b.rows < 2 ^ 32)
    {s t : Host} (he : Emits (blockRow env s.h b) s t) (hn : t.h.nextRow = s.h.nextRow)
    (hroom : false ∉ s.allocs) (hq : s.h.Queue) (hlines : s.h.params.lines < 2 ^ 31) :
    ∃ u, placeBlock env b t = (.ok (), u) ∧ Placed env b s.h u.h := by
  have hplace : EmitPost (blockRow env t.h b) (b.target t.h.params.lines t.h.nextRow) t
      (placeBlock env b t).1 (placeBlock env b t).2 := placeBlock_spec env b hfirst hrows t
  rw [he.control.blockRow, he.control.params, hn, Block.target_of_lines hlines] at hplace
  rcases hp : placeBlock env b t with ⟨e | _, u⟩ <;> rw [hp] at hplace
  · exact absurd (he.allocs.mem hplace.2.1) hroom
  · have hall := he.trans hplace.1
    refine ⟨u, rfl, hall.control, hplace.2, ?_⟩
    rw [← hplace.2]
    exact (hall.queue hq).2

/-- What a block that is taken does to the page. -/
theorem handleDataBlock_places (env : Env) (hacc : s.host.h.params.Accepts plen head)
    (hread : s.inp.YieldsBlock plen head raw) (hroom : false ∉ s.host.allocs) (hq : s.host.h.Queue)
    (hlines : s.host.h.params.lines < 2 ^ 31) :
    ∃ t, handleDataBlock env plen s = (.ok (), t) ∧
      Placed env (Block.ofFrame plen head raw) s.host.h t.host.h := by
  obtain ⟨j, k, hhead, hraw⟩ := hread
  have hreserve : wp (rawReserve (plen - pantumDataHeaderLen)) (fun r t => r = .ok true ∧
      Emits (blockRow env s.host.h (.ofFrame plen head raw)) s.host t ∧
        t.h.nextRow = s.host.h.nextRow) s.host := by
    apply wp_mono (rawReserve_spec (blockRow env s.host.h (.ofFrame plen head raw)) _ _)
    rintro _ t ⟨⟨c, rfl, hc⟩, he, hn⟩
    rw [eq_true_of_ne_false fun h => hroom (hc h)]
    exact ⟨rfl, he, hn⟩
  obtain ⟨hok, he, hn⟩ := hreserve
  obtain ⟨u, hu, hplaced⟩ := placeBlock_placed env (b := .ofFrame plen head raw) (getBe32_lt _ _)
    (getBe32_lt _ _) he hn hroom hq hlines
  refine ⟨{ s with host := u, inp := k }, ?_, hplaced⟩
  rw [handleDataBlock_accepted env hacc hhead (eq_ok hok) hraw]
  simp only [onHost, zoom, hostLens, hu]

/-- A page of four gray rows of two pixels that has its first row, and a device that sends the last
two. -/
def gapBlock : Session where
  host := ⟨{ Handle.zero with params := ⟨.gray, true, 8, 2, 4, 2⟩, nextRow := 1, gamma := id }, true, [],
    true⟩
  inp := ⟨[0, 2, 2, 1, 2, 0].flatMap putBe32 ++ [1, 2, 3, 4], [⟨.success, 24⟩, ⟨.success, 4⟩]⟩
  outp := ⟨[], [], []⟩

theorem handleDataBlock_places_gap :
    (∃ t, handleDataBlock plainEnv 28 gapBlock = (.ok (), t) ∧
      Placed plainEnv (Block.ofFrame 28 ([0, 2, 2, 1, 2, 0].flatMap putBe32) [1, 2, 3, 4])
        gapBlock.host.h t.host.h) ∧
    (handleDataBlock plainEnv 28 gapBlock).2.host.h.pending = [0xff, 0xff, 1, 2, 3, 4] := by
  have hacc : gapBlock.host.h.params.Accepts 28 ([0, 2, 2, 1, 2, 0].flatMap putBe32) := by
    constructor <;> decide
  have hread : gapBlock.inp.YieldsBlock 28 ([0, 2, 2, 1, 2, 0].flatMap putBe32) [1, 2, 3, 4] :=
    ⟨_, _, eq_ok (by decide +kernel), eq_ok (by decide +kernel)⟩
  exact ⟨handleDataBlock_places plainEnv hacc hread (by decide) (by unfold Handle.Queue; decide)
    (by decide), by decide +kernel⟩

end PantumOpen.Scan
