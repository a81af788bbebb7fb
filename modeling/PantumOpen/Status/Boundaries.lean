import PantumOpen.Status.Tool

/-! What the status tool puts out of a text depends on the reads it arrives in. -/

namespace PantumOpen.Status
open Prog Lines

variable {all : Bool} {n : Notes} {fs : List (List UInt8)} {f : List UInt8}

def textFields (text : List UInt8) : List (List UInt8) := fields isLineEnd isSpace text

theorem isSpace_of_isLineEnd {c : UInt8} (h : isLineEnd c = true) : isSpace c = true := by
  simp only [isLineEnd, isSpace, Bool.or_eq_true, Bool.and_eq_true, decide_eq_true_eq] at h ⊢
  rcases h with (⟨hlo, hhi⟩ | ⟨hlo, hhi⟩) | h
  · refine .inl (.inl (.inl ⟨?_, hhi⟩))
    exact UInt8.le_trans (b := 10) (by decide) hlo
  · refine .inl (.inl (.inr ⟨hlo, ?_⟩))
    exact UInt8.le_trans (b := 30) hhi (by decide)
  · exact .inl (.inr h)

def showing (lines : List (List UInt8)) : List (List UInt8) := (lines.map strip).filter (!·.isEmpty)

theorem showing_nil (lines : List (List UInt8)) : showing ([] :: lines) = showing lines := rfl

theorem showing_cons {ls lines : List (List UInt8)} (l : List UInt8) (h : showing ls = showing lines) :
    showing (l :: ls) = showing (l :: lines) := by
  unfold showing at h ⊢
  rw [List.map_cons, List.map_cons, List.filter_cons, List.filter_cons, h]

/-- `splitlines` leaves out an empty last line, and the empty line between the two ends of a line. -/
theorem splitlines_splitOnP (text : List UInt8) : ∃ l ls lines,
    text.splitOnP isLineEnd = l :: ls ∧ showing ls = showing lines ∧
      (splitlines text = l :: lines ∨ splitlines text = [] ∧ l = [] ∧ lines = []) := by
  induction text with
  | nil => exact ⟨[], [], [], rfl, rfl, .inr ⟨rfl, rfl, rfl⟩⟩
  | cons c rest ih =>
    obtain ⟨l, ls, lines, hsplit, hshow, hlines⟩ := ih
    rw [List.splitOnP_cons_eq_if_modifyHead, splitlines, hsplit]
    -- A carriage return takes the line feed behind it along.
    by_cases hcr : c = 13 ∧ rest.head? = some 10
    · have hend : isLineEnd c = true := by rw [hcr.1]; decide
      obtain ⟨rest, rfl⟩ : ∃ r, rest = 10 :: r := by
        rcases rest with _ | ⟨d, r⟩
        · cases hcr.2
        · exact ⟨r, by rw [Option.some.inj hcr.2]⟩
      have hnext : splitlines (10 :: rest) = [] :: splitlines rest := by
        rw [splitlines, if_neg (by simp), if_pos (by decide)]
      rw [hnext] at hlines
      rw [if_pos hend, if_pos hcr, hnext]
      rcases hlines with hlines | ⟨hnil, -⟩
      · obtain ⟨rfl, hrest⟩ := List.cons.inj hlines
        refine ⟨[], [] :: ls, lines, rfl, ?_, .inl (by rw [hrest])⟩
        rw [showing_nil, hshow]
      · cases hnil
    · rw [if_neg hcr]
      by_cases hend : isLineEnd c = true
      · rw [if_pos hend, if_pos hend]
        refine ⟨[], l :: ls, splitlines rest, rfl, ?_, .inl rfl⟩
        rcases hlines with hlines | ⟨hlines, rfl, rfl⟩
        · rw [hlines]
          exact showing_cons l hshow
        · rw [hlines, showing_nil, hshow]
      · rw [if_neg hend, if_neg hend]
        refine ⟨c :: l, ls, lines, rfl, hshow, .inl ?_⟩
        rcases hlines with hlines | ⟨hlines, rfl, rfl⟩ <;> rw [hlines]

theorem showing_splitlines (text : List UInt8) : showing (splitlines text) = textFields text := by
  obtain ⟨l, ls, lines, hsplit, hshow, hlines⟩ := splitlines_splitOnP text
  have hfields : textFields text = showing (l :: ls) := by
    unfold textFields fields
    rw [hsplit]
    rfl
  rw [hfields]
  rcases hlines with hlines | ⟨hlines, rfl, rfl⟩
  · rw [hlines]
    exact (showing_cons l hshow).symm
  · rw [hlines, showing_nil, hshow]

def noteFields (all : Bool) (fs : List (List UInt8)) : Prog Raised Notes Unit :=
  forList (noteField all) fs

theorem note_eq (all : Bool) (text : List UInt8) : note all text = noteFields all (textFields text) := by
  have key (lines : List (List UInt8)) :
      forList (noteLine all) lines = noteFields all (showing lines) := by
    induction lines with
    | nil => rfl
    | cons line lines ih =>
      show (noteLine all line >>= fun _ => forList (noteLine all) lines) = _
      rw [ih]
      unfold noteLine showing
      rw [List.map_cons, List.filter_cons]
      cases (strip line).isEmpty <;> rfl
  unfold note
  rw [key, showing_splitlines]

theorem note_pieces (all : Bool) (pieces : List (List UInt8)) :
    forList (note all) pieces = noteFields all (pieces.flatMap textFields) := by
  have hnote : note all = fun text => noteFields all (textFields text) := funext (note_eq all)
  unfold noteFields
  rw [forList_flatMap, hnote]
  rfl

structure Notes.Extends (n t : Notes) (fs : List (List UInt8)) : Prop where
  emitted : ∃ new, t.emitted = n.emitted ++ new ∧ ∀ r ∈ new, r.line ∈ fs
  last : ∀ k v, t.last k = some v → n.last k = some v ∨ v ∈ fs

theorem Notes.extends_refl (n : Notes) (fs : List (List UInt8)) : n.Extends n fs :=
  ⟨⟨[], (List.append_nil _).symm, fun _ h => by cases h⟩, fun _ _ h => .inl h⟩

theorem Notes.Extends.trans {n t u : Notes} {gs : List (List UInt8)} (h : n.Extends t fs)
    (h' : t.Extends u gs) : n.Extends u (fs ++ gs) := by
  obtain ⟨⟨new, hnew, hfs⟩, hlast⟩ := h
  obtain ⟨⟨new', hnew', hgs⟩, hlast'⟩ := h'
  refine ⟨⟨new ++ new', by rw [hnew', hnew, List.append_assoc], ?_⟩, ?_⟩
  · intro r hr
    rcases List.mem_append.mp hr with hr | hr
    · exact List.mem_append_left _ (hfs r hr)
    · exact List.mem_append_right _ (hgs r hr)
  · intro k v hv
    rcases hlast' k v hv with hv | hv
    · rcases hlast k v hv with hv | hv
      · exact .inl hv
      · exact .inr (List.mem_append_left _ hv)
    · exact .inr (List.mem_append_right _ hv)

theorem Notes.Extends.mono {n t : Notes} {gs : List (List UInt8)} (h : n.Extends t fs)
    (hsub : fs ⊆ gs) : n.Extends t gs := by
  obtain ⟨⟨new, hnew, hfs⟩, hlast⟩ := h
  exact ⟨⟨new, hnew, fun r hr => hsub (hfs r hr)⟩, fun k v hv => (hlast k v hv).imp_right (hsub ·)⟩

theorem emitField_extends (f : List UInt8) (n : Notes) : n.Extends (emitField f n).2 [f] := by
  have hemit (meaning : Option String) : n.Extends (emit ⟨f, meaning⟩ n).2 [f] :=
    ⟨⟨[⟨f, meaning⟩], rfl, fun r hr => by rw [List.mem_singleton.mp hr]; exact List.mem_singleton_self f⟩,
      fun _ _ h => .inl h⟩
  unfold emitField
  split
  · cases describe (strip (f.drop 5)) with
    | ok meaning => exact hemit _
    | error e => exact n.extends_refl _
  · exact hemit _

theorem noteField_extends (all : Bool) (f : List UInt8) (n : Notes) :
    n.Extends (noteField all f n).2 [f] := by
  unfold noteField
  rw [read_bind]
  split
  · exact n.extends_refl _
  · obtain ⟨hemitted, hlast⟩ :=
      emitField_extends f ⟨fun k => if k = key f then some f else n.last k, n.emitted⟩
    refine ⟨hemitted, fun k v hv => ?_⟩
    rcases hlast k v hv with hv | hv
    · change (if k = key f then some f else n.last k) = some v at hv
      by_cases hk : k = key f
      · rw [if_pos hk] at hv
        exact .inr (List.mem_singleton.mpr (Option.some.inj hv).symm)
      · rw [if_neg hk] at hv
        exact .inl hv
    · exact .inr hv

theorem noteFields_extends (all : Bool) (fs : List (List UInt8)) (n : Notes) :
    n.Extends (noteFields all fs n).2 fs := by
  induction fs generalizing n with
  | nil => exact n.extends_refl _
  | cons f fs ih =>
    have hone := noteField_extends all f n
    show n.Extends ((noteField all f >>= fun _ => noteFields all fs) n).2 (f :: fs)
    rcases hf : noteField all f n with ⟨e | u, t⟩
    · rw [hf] at hone
      rw [bind_error hf]
      exact hone.mono (by simp)
    · rw [hf] at hone
      rw [bind_ok hf]
      exact hone.trans (ih t)

theorem noteField_ok (h : codeKey.isPrefixOf f = false) : (noteField all f n).1 = .ok () := by
  unfold noteField
  rw [read_bind]
  split
  · rfl
  · show (emitField f _).1 = _
    unfold emitField
    rw [h]
    rfl

theorem noteFields_ok (h : ∀ f ∈ fs, codeKey.isPrefixOf f = false) :
    (noteFields all fs n).1 = .ok () := by
  induction fs generalizing n with
  | nil => rfl
  | cons f fs ih =>
    have hf := eq_ok (@noteField_ok all n f (h f List.mem_cons_self))
    show ((noteField all f >>= fun _ => noteFields all fs) n).1 = _
    rw [bind_ok hf]
    exact ih fun g hg => h g (List.mem_cons_of_mem _ hg)

theorem noteField_new (hecho : isEcho f = false) (hcode : codeKey.isPrefixOf f = false)
    (hlast : n.last (key f) ≠ some f) :
    (noteField all f n).2.emitted = n.emitted ++ [⟨f, none⟩] := by
  have hlast : (n.last (key f) == some f) = false := by simpa using hlast
  unfold noteField
  rw [read_bind, hecho, hlast, Bool.and_false, Bool.or_false, if_neg (by decide)]
  show (emitField f _).2.emitted = _
  unfold emitField
  rw [hcode]
  rfl

def emission (all : Bool) (last : List UInt8 → Option (List UInt8)) (pieces : List (List UInt8)) :
    List Report := (forList (note all) pieces ⟨last, []⟩).2.emitted

/-- However `bytes` is cut, the same lines are put out, and a code only from a line that is whole. -/
structure ReadsAlike {γ : Type} (emits : γ → List Report) (ways : γ → Prop) (bytes : List UInt8) :
    Prop where
  same : ∀ p q, ways p → ways q → emits p = emits q
  whole : ∀ p, ways p → ∀ r ∈ emits p, codeKey <+: r.line → Closed isLineEnd isSpace bytes r.line

theorem emission_eq (all : Bool) (last : List UInt8 → Option (List UInt8))
    (pieces : List (List UInt8)) :
    emission all last pieces = (noteFields all (pieces.flatMap textFields) ⟨last, []⟩).2.emitted := by
  unfold emission
  rw [note_pieces]

theorem emission_line {last : List UInt8 → Option (List UInt8)} {pieces : List (List UInt8)}
    {r : Report} (h : r ∈ emission all last pieces) : r.line ∈ pieces.flatMap textFields := by
  rw [emission_eq] at h
  obtain ⟨⟨new, hnew, hfs⟩, -⟩ := noteFields_extends all (pieces.flatMap textFields) ⟨last, []⟩
  rw [hnew] at h
  exact hfs r h

theorem sparse_readsAlike {fits : ℕ → Prop} {bytes : List UInt8}
    (hdown : ∀ {n k}, n ≤ k → fits k → fits n) (h : Sparse isLineEnd isSpace fits bytes)
    (last : List UInt8 → Option (List UInt8)) :
    ReadsAlike (emission all last) (Cut fits bytes) bytes := by
  have hfields {p : List (List UInt8)} (hp : Cut fits bytes p) :
      p.flatMap textFields = (shown isSpace bytes).map fun c => [c] :=
    hp.fields_sparse (fun _ => isSpace_of_isLineEnd) h hdown
  refine ⟨fun p q hp hq => ?_, fun p hp r hr hcode => ?_⟩
  · rw [emission_eq, emission_eq, hfields hp, hfields hq]
  · -- a line of one character has no code
    have hline := emission_line hr
    rw [hfields hp] at hline
    obtain ⟨c, -, hc⟩ := List.mem_map.mp hline
    have hlen := hcode.length_le
    rw [← hc, List.length_singleton] at hlen
    exact absurd hlen (by decide +kernel)

theorem ends_readsAlike (last : List UInt8 → Option (List UInt8)) (bytes : List UInt8) :
    ReadsAlike (emission all last)
      (fun p => p.flatten = bytes ∧ ∀ text ∈ p, EndsLine isLineEnd text) bytes := by
  have hfields {p : List (List UInt8)} (hp : p.flatten = bytes ∧ ∀ text ∈ p, EndsLine isLineEnd text) :
      p.flatMap textFields = textFields bytes := by
    rw [← hp.1]
    exact fields_flatten hp.2
  refine ⟨fun p q hp hq => ?_, fun p hp r hr _ => ?_⟩
  · rw [emission_eq, emission_eq, hfields hp, hfields hq]
  · have hline := emission_line hr
    rw [hfields hp] at hline
    refine closed_of_endsLine ?_ hline
    rw [← hp.1]
    exact flatten_endsLine hp.2

/-- Two characters with nothing but blanks between them begin neither an echo nor a code. -/
theorem not_isPrefixOf_word {p₀ p₁ p₂ a c : UInt8} {pre m : List UInt8} (hp : isSpace p₁ = false)
    (hm : ∀ k ∈ m, isSpace k = true) :
    (p₀ :: p₁ :: p₂ :: pre).isPrefixOf (a :: (m ++ [c])) = false := by
  by_contra h
  rw [Bool.not_eq_false, List.isPrefixOf_iff_prefix] at h
  obtain ⟨s, hs⟩ := h
  have hs : p₁ :: (p₂ :: pre ++ s) = m ++ [c] := (List.cons.inj hs).2
  rcases m with _ | ⟨k, m⟩
  · cases (List.cons.inj hs).2
  · have hk := hm k List.mem_cons_self
    rw [← (List.cons.inj hs).1, hp] at hk
    cases hk

theorem isEcho_word {a c : UInt8} {m : List UInt8} (hm : ∀ k ∈ m, isSpace k = true) :
    isEcho (a :: (m ++ [c])) = false := by
  have hinfo : latin1 "@PJL INFO" = 64 :: 80 :: 74 :: latin1 "L INFO" := by decide +kernel
  have hustatus : latin1 "@PJL USTATUS" = 64 :: 80 :: 74 :: latin1 "L USTATUS" := by decide +kernel
  unfold isEcho
  rw [hinfo, hustatus, not_isPrefixOf_word (by decide) hm, not_isPrefixOf_word (by decide) hm]
  rfl

theorem isCode_word {a c : UInt8} {m : List UInt8} (hm : ∀ k ∈ m, isSpace k = true) :
    codeKey.isPrefixOf (a :: (m ++ [c])) = false := by
  have hcode : codeKey = 67 :: 79 :: 68 :: latin1 "E=" := by decide +kernel
  rw [hcode, not_isPrefixOf_word (by decide) hm]

theorem isCode_single (c : UInt8) : codeKey.isPrefixOf [c] = false := by
  have hcode : codeKey = 67 :: 79 :: 68 :: latin1 "E=" := by decide +kernel
  rw [hcode]
  simp [List.isPrefixOf]

theorem mem_noteFields {gs : List (List UInt8)} (hfs : ∀ g ∈ fs, codeKey.isPrefixOf g = false)
    (hnew : f ∉ fs) (hecho : isEcho f = false) (hcode : codeKey.isPrefixOf f = false) :
    ⟨f, none⟩ ∈ (noteFields all (fs ++ f :: gs) {}).2.emitted := by
  have hbefore := eq_ok (@noteFields_ok all {} fs hfs)
  have hlast := (noteFields_extends all fs {}).last
  have hsplit : noteFields all (fs ++ f :: gs) {} =
      (noteField all f >>= fun _ => noteFields all gs) (noteFields all fs {}).2 := by
    unfold noteFields
    rw [forList_append]
    exact bind_ok hbefore
  generalize (noteFields all fs {}).2 = t at hsplit hlast
  have hunseen : t.last (key f) ≠ some f := by
    intro h
    rcases hlast _ _ h with h | h
    · cases h
    · exact hnew h
  obtain ⟨⟨new, hafter, -⟩, -⟩ := noteFields_extends all gs (noteField all f t).2
  rw [hsplit, bind_ok (eq_ok (@noteField_ok all t f hcode)), hafter, noteField_new hecho hcode hunseen]
  simp

/-- Read byte by byte, a text shows its characters one by one; two of them that come in one read show
together. -/
theorem readsAlike_sparse {fits : ℕ → Prop} {bytes : List UInt8}
    (hdown : ∀ {n k}, n ≤ k → fits k → fits n) (hone : fits 1)
    (h : ReadsAlike (emission all fun _ => none) (Cut fits bytes) bytes) :
    Sparse isLineEnd isSpace fits bytes := by
  have hsub : ∀ c, isLineEnd c = true → isSpace c = true := fun _ => isSpace_of_isLineEnd
  by_contra hs
  obtain ⟨x, a, m, c, y, hxs, ha, hc, hfit, hm, hblank⟩ := exists_close hdown hs
  have hcut : Cut fits bytes (singles x ++ (a :: (m ++ [c])) :: singles y) := by
    have hx := @singles_cut _ fits hone x
    have hy := @singles_cut _ fits hone y
    refine ⟨?_, fun p hp => ?_⟩
    · rw [List.flatten_append, List.flatten_cons, hx.whole, hy.whole, hxs]
      simp
    · rcases List.mem_append.mp hp with hp | hp
      · exact hx.fits p hp
      rcases List.mem_cons.mp hp with rfl | hp
      · simpa using hfit
      · exact hy.fits p hp
  have hsingle {z : List UInt8} : (singles z).flatMap textFields = (shown isSpace z).map fun c => [c] :=
    singles_fields hsub z
  have hword : textFields (a :: (m ++ [c])) = [a :: (m ++ [c])] := fields_word hsub ha hc hm
  have hlong (z : List UInt8) : a :: (m ++ [c]) ∉ (shown isSpace z).map fun c => [c] := by
    intro hmem
    obtain ⟨d, -, hd⟩ := List.mem_map.mp hmem
    have hlen := congrArg List.length hd
    simp at hlen
  -- Put into one read, the two characters show as one word, which no single byte can be.
  have hput : ⟨a :: (m ++ [c]), none⟩ ∈
      emission all (fun _ => none) (singles x ++ (a :: (m ++ [c])) :: singles y) := by
    rw [emission_eq, List.flatMap_append, List.flatMap_cons, hsingle, hsingle, hword]
    refine mem_noteFields (fun g hg => ?_) (hlong x) (isEcho_word hblank) (isCode_word hblank)
    obtain ⟨d, -, rfl⟩ := List.mem_map.mp hg
    exact isCode_single d
  rw [h.same _ _ hcut (singles_cut hone bytes)] at hput
  have hline := emission_line hput
  rw [hsingle] at hline
  exact hlong bytes hline

def probeLines (last : List UInt8 → Option (List UInt8)) (reads : List (List UInt8)) : List Report :=
  (listenNoting { listens := [⟨reads, false⟩], notes := ⟨last, []⟩ }).2.notes.emitted

/-- What `watch` puts out over its listening intervals, with a device that takes every poll. -/
def watchLines (all : Bool) (last : List UInt8 → Option (List UInt8))
    (intervals : List (List (List UInt8))) : List Report :=
  (watchRounds all intervals.length
    { listens := intervals.map fun reads => ⟨reads, false⟩, notes := ⟨last, []⟩ }).2.notes.emitted

theorem probeLines_eq (last : List UInt8 → Option (List UInt8)) :
    probeLines last = emission false last := by
  funext reads
  have hend : ∀ _ : Unit, Keeps Tool.notes (pure () : Prog Raised Tool Unit) := fun _ => keeps_pure ()
  exact congrArg Notes.emitted (keeps_bind_right hend
    { listens := [], notes := ⟨last, []⟩ } (m := zoom toolNotes (forList (note false) reads)))

theorem zoom_notes {m : Prog Raised Notes Unit} {t : Tool} {r : Except Raised Unit} {n : Notes}
    (h : m t.notes = (r, n)) : zoom toolNotes m t = (r, { t with notes := n }) := by
  show ((m t.notes).1, toolNotes.set (m t.notes).2 t) = _
  rw [h]
  rfl

theorem poll_taken (all : Bool) {t : Tool} (h : t.writes = []) :
    poll all t = (.ok (), { t with writes := [], reached := t.reached ++ infoStatus }) := by
  have hwrite : attempt (writeAll infoStatus) t =
      (.ok (.ok ()), { t with writes := [], reached := t.reached ++ infoStatus }) := by
    unfold attempt writeAll
    rw [read_bind, h]
    rfl
  unfold poll
  rw [bind_ok hwrite]
  rfl

theorem watchRounds_notes (all : Bool) (intervals : List (List (List UInt8))) {t : Tool}
    (hw : t.writes = []) (hl : t.listens = intervals.map fun reads => ⟨reads, false⟩) :
    (watchRounds all intervals.length t).2.notes =
      (forList (note all) (intervals.map List.flatten) t.notes).2 := by
  induction intervals generalizing t with
  | nil => rfl
  | cons reads intervals ih =>
    let u : Tool := { t with
      writes := []
      reached := t.reached ++ infoStatus
      listens := intervals.map fun reads => ⟨reads, false⟩ }
    have hlisten : (poll all >>= fun _ => listen) t = (.ok reads.flatten, u) := by
      rw [bind_ok (poll_taken all hw)]
      unfold listen
      rw [read_bind, hl]
      rfl
    have hround : watchRounds all (intervals.length + 1) t =
        (zoom toolNotes (note all reads.flatten) >>= fun _ => watchRounds all intervals.length) u := by
      have hassoc : watchRounds all (intervals.length + 1) =
          (poll all >>= fun _ => listen) >>= fun text => zoom toolNotes (note all text) >>= fun _ =>
            watchRounds all intervals.length := (Prog.bind_assoc _ _ _).symm
      rw [hassoc, bind_ok hlisten]
    rw [List.length_cons, hround, List.map_cons]
    show _ = ((note all reads.flatten >>= fun _ => forList (note all) _) t.notes).2
    rcases hn : note all reads.flatten t.notes with ⟨e | v, n⟩
    · rw [bind_error (@zoom_notes _ u _ _ hn), bind_error hn]
    · rw [bind_ok (@zoom_notes _ u _ _ hn), bind_ok hn]
      exact ih rfl rfl

theorem watchLines_eq (all : Bool) (last : List UInt8 → Option (List UInt8))
    (intervals : List (List (List UInt8))) :
    watchLines all last intervals = emission all last (intervals.map List.flatten) := by
  unfold watchLines
  rw [watchRounds_notes all intervals rfl rfl]
  rfl

/-- Reads of at most 4096 bytes, put together over the intervals, cut a text in every way. -/
theorem watchLines_readsAlike {last : List UInt8 → Option (List UInt8)} {bytes : List UInt8} :
    ReadsAlike (watchLines all last) (fun intervals => Cut (· ≤ 4096) bytes intervals.flatten) bytes ↔
      ReadsAlike (emission all last) (Cut (fun _ => True) bytes) bytes := by
  constructor
  · intro h
    have hcut {p : List (List UInt8)} (hp : Cut (fun _ => True) bytes p) :
        Cut (· ≤ 4096) bytes (p.map singles).flatten := by
      have hwhole : (p.map singles).flatten.flatten = bytes := by
        rw [List.flatten_flatten, List.map_map, ← hp.whole]
        exact congrArg List.flatten ((List.map_congr_left fun q _ => singles_flatten q).trans p.map_id)
      refine ⟨hwhole, fun read hread => ?_⟩
      obtain ⟨_, hq, hread⟩ := List.mem_flatten.mp hread
      obtain ⟨q, -, rfl⟩ := List.mem_map.mp hq
      exact (@singles_cut _ (· ≤ 4096) (by decide) q).fits read hread
    have hsame (p : List (List UInt8)) : emission all last p = watchLines all last (p.map singles) := by
      rw [watchLines_eq, List.map_map]
      exact congrArg _ ((List.map_congr_left fun q _ => singles_flatten q).trans p.map_id).symm
    refine ⟨fun p q hp hq => ?_, fun p hp r hr hcode => ?_⟩
    · rw [hsame p, hsame q]
      exact h.same _ _ (hcut hp) (hcut hq)
    · rw [hsame p] at hr
      exact h.whole _ (hcut hp) r hr hcode
  · intro h
    have hcut {intervals : List (List (List UInt8))}
        (hi : Cut (· ≤ 4096) bytes intervals.flatten) :
        Cut (fun _ => True) bytes (intervals.map List.flatten) :=
      ⟨List.flatten_flatten.symm.trans hi.whole, fun _ _ => trivial⟩
    refine ⟨fun p q hp hq => ?_, fun p hp r hr hcode => ?_⟩
    · rw [watchLines_eq, watchLines_eq]
      exact h.same _ _ (hcut hp) (hcut hq)
    · rw [watchLines_eq] at hr
      exact h.whole _ (hcut hp) r hr hcode

/-- The reads cannot be told from what is put out of the texts of which no line shows two characters
that one read can bring together; and of every text when no read ends inside a line. -/
theorem readsAlike_iff (bytes : List UInt8) (all : Bool) :
    ((∀ last, ReadsAlike (probeLines last) (Cut (· ≤ 4096) bytes) bytes) ↔
      Sparse isLineEnd isSpace (· ≤ 4096) bytes) ∧
    ((∀ last, ReadsAlike (watchLines all last)
        (fun intervals => Cut (· ≤ 4096) bytes intervals.flatten) bytes) ↔
      Sparse isLineEnd isSpace (fun _ => True) bytes) ∧
    (∀ last, ReadsAlike (probeLines last) (fun reads => Cut (· ≤ 4096) bytes reads ∧
      ∀ text ∈ reads, EndsLine isLineEnd text) bytes) ∧
    ∀ last, ReadsAlike (watchLines all last) (fun intervals =>
      Cut (· ≤ 4096) bytes intervals.flatten ∧
        ∀ reads ∈ intervals, EndsLine isLineEnd reads.flatten) bytes := by
  refine ⟨?_, ?_, fun last => ?_, fun last => ?_⟩
  · have hdown {n k : ℕ} (hnk : n ≤ k) (hk : k ≤ 4096) : n ≤ 4096 := hnk.trans hk
    constructor
    -- A text on which no code was reported yet is enough to tell two ways of reading apart.
    · intro h
      have hstart := h fun _ => none
      rw [probeLines_eq] at hstart
      exact readsAlike_sparse hdown (by decide) hstart
    · intro h last
      rw [probeLines_eq]
      exact sparse_readsAlike hdown h last
  · constructor
    · intro h
      exact readsAlike_sparse (fun _ h => h) trivial (watchLines_readsAlike.mp (h fun _ => none))
    · intro h last
      exact watchLines_readsAlike.mpr (sparse_readsAlike (fun _ h => h) h last)
  · have hends := @ends_readsAlike false last bytes
    rw [probeLines_eq]
    exact ⟨fun p q hp hq => hends.same p q ⟨hp.1.whole, hp.2⟩ ⟨hq.1.whole, hq.2⟩,
      fun p hp => hends.whole p ⟨hp.1.whole, hp.2⟩⟩
  · have hends := @ends_readsAlike all last bytes
    have hway {intervals : List (List (List UInt8))} (hi : Cut (· ≤ 4096) bytes intervals.flatten ∧
        ∀ reads ∈ intervals, EndsLine isLineEnd reads.flatten) :
        (intervals.map List.flatten).flatten = bytes ∧
          ∀ text ∈ intervals.map List.flatten, EndsLine isLineEnd text := by
      refine ⟨List.flatten_flatten.symm.trans hi.1.whole, fun text htext => ?_⟩
      obtain ⟨reads, hreads, rfl⟩ := List.mem_map.mp htext
      exact hi.2 reads hreads
    refine ⟨fun p q hp hq => ?_, fun p hp r hr hcode => ?_⟩
    · rw [watchLines_eq, watchLines_eq]
      exact hends.same _ _ (hway hp) (hway hq)
    · rw [watchLines_eq] at hr
      exact hends.whole _ (hway hp) r hr hcode

/-- A report that comes in two reads, or in two intervals, shows another code and its last digits. -/
theorem splitReport_misread :
    let report := latin1 "CODE=10001\r\n"
    let split := [latin1 "CODE=1", latin1 "0001\r\n"]
    ¬ ReadsAlike (probeLines fun _ => none) (Cut (· ≤ 4096) report) report ∧
      ¬ ReadsAlike (watchLines false fun _ => none)
        (fun intervals => Cut (· ≤ 4096) report intervals.flatten) report ∧
      probeLines (fun _ => none) [report] =
        [⟨latin1 "CODE=10001", some "ready (online) -- device status / ready class (10000-19999)"⟩] ∧
      probeLines (fun _ => none) split =
        [⟨latin1 "CODE=1", some "informational (<10000)"⟩, ⟨latin1 "0001", none⟩] ∧
      ¬ Closed isLineEnd isSpace report (latin1 "CODE=1") := by
  have hwhole : Cut (· ≤ 4096) (latin1 "CODE=10001\r\n") [latin1 "CODE=10001\r\n"] :=
    ⟨by decide +kernel, by simp; decide +kernel⟩
  have hsplit : Cut (· ≤ 4096) (latin1 "CODE=10001\r\n") [latin1 "CODE=1", latin1 "0001\r\n"] :=
    ⟨by decide +kernel, by simp; decide +kernel⟩
  refine ⟨fun h => ?_, fun h => ?_, by decide +kernel, by decide +kernel, by decide +kernel⟩
  · exact absurd (h.same _ _ hwhole hsplit) (by decide +kernel)
  · exact absurd (h.same [[latin1 "CODE=10001\r\n"]] [[latin1 "CODE=1"], [latin1 "0001\r\n"]] hwhole hsplit)
      (by decide +kernel)

end PantumOpen.Status
