import Mathlib

/-! Lines of a text that arrives in pieces, and what each line shows when a piece is read by itself. -/

namespace Lines
open List

variable {α : Type} {brk blank : α → Bool} {fits : ℕ → Prop} {xs ys : List α}

def trim (blank : α → Bool) (xs : List α) : List α := (xs.dropWhile blank).rdropWhile blank

/-- What the lines show, without those that show nothing. -/
def fields (brk blank : α → Bool) (xs : List α) : List (List α) :=
  ((xs.splitOnP brk).map (trim blank)).filter (!·.isEmpty)

def shown (blank : α → Bool) (xs : List α) : List α := xs.filter (!blank ·)

/-- No two items that one line shows fit into one piece. -/
def Sparse (brk blank : α → Bool) (fits : ℕ → Prop) (xs : List α) : Prop :=
  ∀ x a m c y, xs = x ++ a :: (m ++ c :: y) → blank a = false → blank c = false →
    fits (m.length + 2) → ∃ k ∈ m, brk k = true

structure Cut (fits : ℕ → Prop) (xs : List α) (pieces : List (List α)) : Prop where
  whole : pieces.flatten = xs
  fits : ∀ p ∈ pieces, fits p.length

def EndsLine (brk : α → Bool) (p : List α) : Prop := ∀ c ∈ p.getLast?, brk c = true

def Closed (brk blank : α → Bool) (xs field : List α) : Prop :=
  ∃ l ∈ (xs.splitOnP brk).dropLast, trim blank l = field

instance [DecidableEq α] (xs field : List α) : Decidable (Closed brk blank xs field) :=
  inferInstanceAs (Decidable (∃ l ∈ (xs.splitOnP brk).dropLast, trim blank l = field))

theorem fields_nil : fields brk blank ([] : List α) = [] := rfl

theorem fields_line (h : ∀ c ∈ xs, brk c = false) :
    fields brk blank xs = [trim blank xs].filter (!·.isEmpty) := by
  unfold fields
  rw [splitOnP_eq_singleton h, map_singleton]

theorem fields_append {c : α} (hbrk : brk c = true) (xs ys : List α) :
    fields brk blank (xs ++ c :: ys) = fields brk blank xs ++ fields brk blank ys := by
  unfold fields
  rw [splitOnP_append_cons xs ys hbrk, map_append, filter_append]

theorem trim_line {x y : List α} {a : α} (hx : ∀ c ∈ x, blank c = true) (ha : blank a = false)
    (hy : ∀ c ∈ y, blank c = true) : trim blank (x ++ a :: y) = [a] := by
  have hdrop : (x ++ a :: y).dropWhile blank = a :: y := by
    rw [dropWhile_append_of_pos hx, dropWhile_cons_of_neg (by simp [ha])]
  have hrev : (a :: y).reverse.dropWhile blank = [a] := by
    have hy' : ∀ c ∈ y.reverse, blank c = true := fun c hc => hy c (mem_reverse.mp hc)
    rw [reverse_cons, dropWhile_append_of_pos hy', dropWhile_cons_of_neg (by simp [ha])]
  unfold trim rdropWhile
  rw [hdrop, hrev]
  rfl

theorem trim_blank (h : ∀ c ∈ xs, blank c = true) : trim blank xs = [] := by
  unfold trim
  rw [dropWhile_eq_nil_iff.mpr h]
  rfl

theorem trim_word {a c : α} (ha : blank a = false) (hc : blank c = false) (m : List α) :
    trim blank (a :: (m ++ [c])) = a :: (m ++ [c]) := by
  have hdrop : (a :: (m ++ [c])).dropWhile blank = a :: (m ++ [c]) :=
    dropWhile_cons_of_neg (by simp [ha])
  unfold trim
  rw [hdrop, ← cons_append]
  exact rdropWhile_concat_neg _ _ _ (by simp [hc])

theorem fields_word (hsub : ∀ c, brk c = true → blank c = true) {a c : α} {m : List α}
    (ha : blank a = false) (hc : blank c = false) (hm : ∀ k ∈ m, brk k = false) :
    fields brk blank (a :: (m ++ [c])) = [a :: (m ++ [c])] := by
  have hshown {k : α} (hk : blank k = false) : brk k = false := by
    by_contra hbrk
    rw [hsub k (by simpa using hbrk)] at hk
    cases hk
  have hline : ∀ k ∈ a :: (m ++ [c]), brk k = false := by
    intro k hk
    rcases mem_cons.mp hk with rfl | hk
    · exact hshown ha
    rcases mem_append.mp hk with hk | hk
    · exact hm k hk
    · rw [mem_singleton.mp hk]
      exact hshown hc
  rw [fields_line hline, trim_word ha hc]
  rfl

theorem Sparse.piece (h : Sparse brk blank fits xs) (hdown : ∀ {n k}, n ≤ k → fits k → fits n)
    {p : List α} (hp : p <:+: xs) (hfit : fits p.length) : Sparse brk blank (fun _ => True) p := by
  obtain ⟨u, v, rfl⟩ := hp
  intro x a m c y hxs ha hc _
  have hlen : m.length + 2 ≤ p.length := by simp [hxs]; omega
  refine h (u ++ x) a m c (y ++ v) ?_ ha hc (hdown hlen hfit)
  simp [hxs]

theorem trim_sparse (h : Sparse brk blank (fun _ => True) xs) (hline : ∀ c ∈ xs, brk c = false) :
    trim blank xs = shown blank xs := by
  unfold shown
  by_cases hall : ∀ c ∈ xs, blank c = true
  · rw [trim_blank hall, filter_eq_nil_iff.mpr (by simpa using hall)]
  push Not at hall
  obtain ⟨a, ha, hshow⟩ := hall
  have hshow : blank a = false := Bool.eq_false_iff.mpr hshow
  obtain ⟨x, y, rfl⟩ := append_of_mem ha
  -- a second item that shows would stand on the line of the first
  have hx : ∀ c ∈ x, blank c = true := by
    intro c hc
    by_contra hne
    obtain ⟨x₁, x₂, rfl⟩ := append_of_mem hc
    obtain ⟨k, hk, hbrk⟩ := h x₁ c x₂ a y (by simp) (Bool.eq_false_iff.mpr hne) hshow trivial
    rw [hline k (by simp [hk])] at hbrk
    exact absurd hbrk (by decide)
  have hy : ∀ c ∈ y, blank c = true := by
    intro c hc
    by_contra hne
    obtain ⟨y₁, y₂, rfl⟩ := append_of_mem hc
    obtain ⟨k, hk, hbrk⟩ := h x a y₁ c y₂ rfl hshow (Bool.eq_false_iff.mpr hne) trivial
    rw [hline k (by simp [hk])] at hbrk
    exact absurd hbrk (by decide)
  have hx' : x.filter (!blank ·) = [] := filter_eq_nil_iff.mpr (by simpa using hx)
  have hy' : y.filter (!blank ·) = [] := filter_eq_nil_iff.mpr (by simpa using hy)
  rw [trim_line hx hshow hy, filter_append, filter_cons, hx', hy']
  simp [hshow]

theorem fields_sparse (hsub : ∀ c, brk c = true → blank c = true)
    (h : Sparse brk blank (fun _ => True) xs) :
    fields brk blank xs = (shown blank xs).map fun c => [c] := by
  -- `l` is what has been read of the line so far
  have key : ∀ ys l : List α, (∀ c ∈ l, brk c = false) →
      Sparse brk blank (fun _ => True) (l ++ ys) →
        fields brk blank (l ++ ys) = (shown blank (l ++ ys)).map fun c => [c] := by
    have hline (l : List α) (hl : ∀ c ∈ l, brk c = false) (hs : Sparse brk blank (fun _ => True) l) :
        fields brk blank l = (shown blank l).map fun c => [c] := by
      rw [fields_line hl, trim_sparse hs hl]
      rcases hshown : shown blank l with _ | ⟨a, _ | ⟨c, rest⟩⟩
      · rfl
      · rfl
      · obtain ⟨x, y, hl₁, -, ha, hy⟩ := filter_eq_cons_iff.mp hshown
        obtain ⟨m, z, hy₁, -, hc, -⟩ := filter_eq_cons_iff.mp hy
        obtain ⟨k, hk, hbrk⟩ := hs x a m c z (by rw [hl₁, hy₁]) (by simpa using ha) (by simpa using hc)
          trivial
        rw [hl k (by rw [hl₁, hy₁]; simp [hk])] at hbrk
        exact absurd hbrk (by decide)
    intro ys
    induction ys with
    | nil =>
      intro l hl hs
      rw [append_nil] at hs ⊢
      exact hline l hl hs
    | cons c ys ih =>
      intro l hl hs
      by_cases hbrk : brk c = true
      · have hleft : Sparse brk blank (fun _ => True) l :=
          hs.piece (fun _ h => h) ⟨[], c :: ys, by simp⟩ trivial
        have hright : Sparse brk blank (fun _ => True) ([] ++ ys) :=
          hs.piece (fun _ h => h) ⟨l ++ [c], [], by simp⟩ trivial
        have hrest := ih [] (by simp) hright
        rw [nil_append] at hrest
        rw [fields_append hbrk, hline l hl hleft, hrest]
        unfold shown
        rw [filter_append, filter_cons, hsub c hbrk, map_append]
        rfl
      · have hmore := ih (l ++ [c])
        rw [append_assoc, singleton_append] at hmore
        refine hmore ?_ hs
        intro k hk
        rcases mem_append.mp hk with hk | hk
        · exact hl k hk
        · rw [mem_singleton.mp hk]
          exact Bool.eq_false_iff.mpr hbrk
  simpa using key xs [] (by simp) (by simpa using h)

theorem fields_pieces (hsub : ∀ c, brk c = true → blank c = true) {pieces : List (List α)}
    (h : ∀ p ∈ pieces, Sparse brk blank (fun _ => True) p) :
    pieces.flatMap (fields brk blank) = (shown blank pieces.flatten).map fun c => [c] := by
  induction pieces with
  | nil => rfl
  | cons p pieces ih =>
    have hrest := ih fun q hq => h q (mem_cons_of_mem _ hq)
    rw [flatMap_cons, hrest, fields_sparse hsub (h p mem_cons_self), flatten_cons]
    unfold shown
    rw [filter_append, map_append]

theorem Cut.fields_sparse (hsub : ∀ c, brk c = true → blank c = true) {pieces : List (List α)}
    (hcut : Cut fits xs pieces) (h : Sparse brk blank fits xs)
    (hdown : ∀ {n k}, n ≤ k → fits k → fits n) :
    pieces.flatMap (fields brk blank) = (shown blank xs).map fun c => [c] := by
  rw [← hcut.whole]
  apply fields_pieces hsub
  intro p hp
  refine h.piece hdown ?_ (hcut.fits p hp)
  rw [← hcut.whole]
  exact infix_of_mem_flatten hp

def singles (xs : List α) : List (List α) := xs.map fun c => [c]

theorem singles_flatten (xs : List α) : (singles xs).flatten = xs := by
  induction xs with
  | nil => rfl
  | cons c xs ih => simpa [singles] using ih

theorem singles_cut (hone : fits 1) (xs : List α) : Cut fits xs (singles xs) := by
  refine ⟨singles_flatten xs, fun p hp => ?_⟩
  obtain ⟨c, -, rfl⟩ := mem_map.mp hp
  exact hone

theorem singles_fields (hsub : ∀ c, brk c = true → blank c = true) (xs : List α) :
    (singles xs).flatMap (fields brk blank) = (shown blank xs).map fun c => [c] := by
  have hthin : ∀ p ∈ singles xs, Sparse brk blank (fun _ => True) p := by
    intro p hp x a m c y hxs
    obtain ⟨k, -, rfl⟩ := mem_map.mp hp
    have hlen := congrArg List.length hxs
    simp at hlen
    omega
  rw [fields_pieces hsub hthin, singles_flatten]

/-- In a text that is not sparse, two items that one line shows have only blanks between them and fit
into one piece. -/
theorem exists_close (hdown : ∀ {n k}, n ≤ k → fits k → fits n)
    (h : ¬ Sparse brk blank fits xs) : ∃ x a m c y, xs = x ++ a :: (m ++ c :: y) ∧
      blank a = false ∧ blank c = false ∧ fits (m.length + 2) ∧
      (∀ k ∈ m, brk k = false) ∧ ∀ k ∈ m, blank k = true := by
  unfold Sparse at h
  push Not at h
  obtain ⟨x, a, m, c, y, hxs, ha, hc, hfit, hm⟩ := h
  have hm : ∀ k ∈ m, brk k = false := fun k hk => Bool.eq_false_iff.mpr (hm k hk)
  by_cases hall : ∀ k ∈ m, blank k = true
  · exact ⟨x, a, m, c, y, hxs, ha, hc, hfit, hm, hall⟩
  -- the first item of `m` that shows is the neighbour of `a`
  have hsplit : m.takeWhile blank ++ m.dropWhile blank = m := takeWhile_append_dropWhile
  rcases hrest : m.dropWhile blank with _ | ⟨k, rest⟩
  · exact absurd (dropWhile_eq_nil_iff.mp hrest) hall
  rw [hrest] at hsplit
  have hk : blank k = false := by
    have hhead := head?_dropWhile_not blank m
    rw [hrest] at hhead
    simpa using hhead
  refine ⟨x, a, m.takeWhile blank, k, rest ++ c :: y, ?_, ha, hk, ?_, ?_, ?_⟩
  · rw [hxs]
    conv_lhs => rw [← hsplit]
    simp
  · refine hdown ?_ hfit
    have hlen := congrArg List.length hsplit
    simp at hlen
    omega
  · exact fun i hi => hm i ((takeWhile_sublist blank).subset hi)
  · exact fun i hi => mem_takeWhile_imp hi

theorem fields_flatten {pieces : List (List α)} (h : ∀ p ∈ pieces, EndsLine brk p) :
    pieces.flatMap (fields brk blank) = fields brk blank pieces.flatten := by
  induction pieces with
  | nil => rfl
  | cons p pieces ih =>
    have hrest := ih fun q hq => h q (mem_cons_of_mem _ hq)
    rw [flatMap_cons, hrest, flatten_cons]
    rcases eq_nil_or_concat' p with rfl | ⟨q, c, rfl⟩
    · rfl
    · have hbrk : brk c = true := h _ mem_cons_self c (by simp)
      have hnil := @fields_append _ brk blank c hbrk q []
      rw [hnil, fields_nil, append_nil, append_assoc, singleton_append, fields_append hbrk]

theorem flatten_endsLine {pieces : List (List α)} (h : ∀ p ∈ pieces, EndsLine brk p) :
    EndsLine brk pieces.flatten := by
  intro c hc
  induction pieces using reverseRecOn with
  | nil => cases hc
  | append_singleton pieces p ih =>
    rw [flatten_append, flatten_singleton] at hc
    rcases eq_nil_or_concat' p with rfl | ⟨q, d, rfl⟩
    · rw [append_nil] at hc
      exact ih (fun q hq => h q (mem_append_left _ hq)) hc
    · have hd : brk d = true := h (q ++ [d]) (by simp) d (by simp)
      rw [← append_assoc, getLast?_concat] at hc
      rwa [← Option.some.inj hc]

theorem closed_of_endsLine (h : EndsLine brk xs) {field : List α} (hf : field ∈ fields brk blank xs) :
    Closed brk blank xs field := by
  obtain ⟨hf, hne⟩ := mem_filter.mp hf
  obtain ⟨l, hl, rfl⟩ := mem_map.mp hf
  refine ⟨l, ?_, rfl⟩
  rcases eq_nil_or_concat' xs with rfl | ⟨q, c, rfl⟩
  · rw [splitOnP_nil, mem_singleton] at hl
    rw [hl] at hne
    exact absurd hne (by simp [trim])
  · have hbrk : brk c = true := h c (by simp)
    have hsplit : (q ++ [c]).splitOnP brk = q.splitOnP brk ++ [[]] := splitOnP_append_cons q [] hbrk
    rw [hsplit, dropLast_concat]
    rw [hsplit] at hl
    rcases mem_append.mp hl with hl | hl
    · exact hl
    · rw [mem_singleton.mp hl] at hne
      exact absurd hne (by simp [trim])

end Lines
