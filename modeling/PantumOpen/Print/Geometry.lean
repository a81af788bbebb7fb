import PantumOpen.Print.PageOutcome

/-! The geometry a page announces, and the image that goes with it. -/

namespace PantumOpen.Print
open Prog Stdio

/-- What a page is made of when it is sent off: the items of its START_PAGE chunk, and the image the
encoder is given with its size. -/
structure SentPage where
  items : List ZjItem
  bitmap : List UInt8
  width : UInt32
  height : UInt32

def SentPage.chunks (env : Env) (s : SentPage) : List Chunk :=
  let bie := (env.jbig s.bitmap s.width s.height).flatten
  { type := zjtStartPage, items := s.items } :: { type := zjtJbigBih, raw := bie.take jbigBihLen } ::
    ((bidPieces bie.length (bie.drop jbigBihLen)).map fun raw => { type := zjtJbigBid, raw := raw }) ++
    [{ type := zjtEndJbig }, { type := zjtEndPage }]

def sentPage (hdr : PageHeader) (opt : JobOptions) (lines : List (List UInt8)) : SentPage :=
  let lay := pageLayout hdr opt
  ⟨pageItems hdr lay opt, pageBitmap hdr lay opt lines, lay.videoX * lay.depth, lay.videoY⟩

/-- The sheet without toner, when the page is not turned. -/
def sentBlank (hdr : PageHeader) (opt : JobOptions) : SentPage :=
  let lay := pageLayout hdr opt
  ⟨pageItems hdr lay opt, List.replicate (lay.videoX.toNat * lay.depth.toNat / 8 * lay.videoY.toNat) 0,
    lay.videoX * lay.depth, lay.videoY⟩

def itemValue (items : List ZjItem) (type : UInt16) : Option UInt32 :=
  (items.find? fun item => item.type == type).map ZjItem.value

/-- What a page announces is what it is: every item occurs once, the raster is the image that is
encoded, and a custom size is the exact size of the sheet in dots. -/
structure SentPage.Exact (hdr : PageHeader) (s : SentPage) : Prop where
  once : (s.items.map ZjItem.type).Nodup
  width : ∃ x bpp, itemValue s.items zjiVideoX = some x ∧ itemValue s.items zjiVideoBpp = some bpp ∧
    0 < x.toNat ∧ 32 ∣ x.toNat ∧ s.width.toNat = x.toNat * bpp.toNat ∧
    itemValue s.items zjiRasterX = some s.width
  height : itemValue s.items zjiVideoY = some s.height ∧ itemValue s.items zjiRasterY = some s.height
  custom : ∀ type ∈ [zjiCustomUnit, zjiCustomWidth, zjiCustomHeight],
    type ∈ s.items.map ZjItem.type ↔ itemValue s.items zjiDmpaper = some 0
  size : itemValue s.items zjiDmpaper = some 0 → ∃ w h x,
    itemValue s.items zjiCustomWidth = some w ∧ w.toNat = hdr.pageSize.1.toNat * 600 / 72 ∧
    itemValue s.items zjiCustomHeight = some h ∧ h.toNat = hdr.pageSize.2.toNat * 600 / 72 ∧
    itemValue s.items zjiVideoX = some x ∧
    hdr.cupsWidth.toNat ≤ x.toNat ∧ x.toNat < hdr.cupsWidth.toNat + 32 ∧
    hdr.cupsHeight.toNat ≤ s.height.toNat ∧ s.height.toNat < hdr.cupsHeight.toNat + 8

structure PageHeader.SizeFits (hdr : PageHeader) : Prop where
  width : hdr.pageSize.1.toNat * 600 / 72 < 2 ^ 32
  height : hdr.pageSize.2.toNat * 600 / 72 < 2 ^ 32

variable {env : Env} {hdr : PageHeader} {lay : PageLayout} {opt : JobOptions}

theorem itemValue_custom (hdr : PageHeader) (opt : JobOptions) (hpaper : lay.dmpaper = 0) :
    itemValue (pageItems hdr lay opt) zjiCustomWidth =
        some (UInt32.ofNat (hdr.pageSize.1.toNat * 600 / 72)) ∧
      itemValue (pageItems hdr lay opt) zjiCustomHeight =
        some (UInt32.ofNat (hdr.pageSize.2.toNat * 600 / 72)) := by
  unfold pageItems
  rw [if_pos hpaper]
  exact ⟨rfl, rfl⟩

theorem itemValue_paper (hdr : PageHeader) (lay : PageLayout) (opt : JobOptions) :
    itemValue (pageItems hdr lay opt) zjiDmpaper = some lay.dmpaper := rfl

theorem itemValue_width (hdr : PageHeader) (lay : PageLayout) (opt : JobOptions) :
    itemValue (pageItems hdr lay opt) zjiVideoX = some lay.videoX ∧
      itemValue (pageItems hdr lay opt) zjiVideoBpp = some lay.depth ∧
      itemValue (pageItems hdr lay opt) zjiRasterX = some (lay.videoX * lay.depth) := by
  unfold pageItems
  by_cases hpaper : lay.dmpaper = 0
  · rw [if_pos hpaper]
    exact ⟨rfl, rfl, rfl⟩
  · rw [if_neg hpaper]
    exact ⟨rfl, rfl, rfl⟩

theorem itemValue_height (hdr : PageHeader) (lay : PageLayout) (opt : JobOptions) :
    itemValue (pageItems hdr lay opt) zjiVideoY = some lay.videoY ∧
      itemValue (pageItems hdr lay opt) zjiRasterY = some lay.videoY := by
  unfold pageItems
  by_cases hpaper : lay.dmpaper = 0
  · rw [if_pos hpaper]
    exact ⟨rfl, rfl⟩
  · rw [if_neg hpaper]
    exact ⟨rfl, rfl⟩

theorem pageItems_types (hdr : PageHeader) (lay : PageLayout) (opt : JobOptions) :
    (pageItems hdr lay opt).map ZjItem.type = [zjiDmpaper] ++
      (if lay.dmpaper = 0 then [zjiCustomUnit, zjiCustomWidth, zjiCustomHeight] else []) ++
      [zjiDmcopies, zjiDmdefaultsource, zjiDmmediatype, zjiNbie, zjiResolutionX, zjiResolutionY, zjiRet,
        zjiRasterX, zjiRasterY, zjiVideoBpp, zjiVideoX, zjiVideoY, zjiPantumDensity] := by
  unfold pageItems
  by_cases hpaper : lay.dmpaper = 0
  · rw [if_pos hpaper, if_pos hpaper]
    rfl
  · rw [if_neg hpaper, if_neg hpaper]
    rfl

theorem pageItems_nodup (hdr : PageHeader) (lay : PageLayout) (opt : JobOptions) :
    ((pageItems hdr lay opt).map ZjItem.type).Nodup := by
  rw [pageItems_types]
  split <;> decide

theorem pageItems_custom {type : UInt16} (htype : type ∈ [zjiCustomUnit, zjiCustomWidth, zjiCustomHeight]) :
    type ∈ (pageItems hdr lay opt).map ZjItem.type ↔
      itemValue (pageItems hdr lay opt) zjiDmpaper = some 0 := by
  rw [itemValue_paper, pageItems_types, Option.some_inj]
  constructor
  · intro h
    by_contra hpaper
    rw [if_neg hpaper] at h
    simp only [List.mem_cons, List.not_mem_nil, or_false] at htype
    rcases htype with rfl | rfl | rfl <;> exact absurd h (by decide)
  · intro hpaper
    rw [if_pos hpaper]
    exact List.mem_append_left _ (List.mem_append_right _ htype)

theorem rasterX_toNat (h : hdr.accepted = true) (opt : JobOptions) :
    ((pageLayout hdr opt).videoX * (pageLayout hdr opt).depth).toNat =
      (pageLayout hdr opt).videoX.toNat * (pageLayout hdr opt).depth.toNat := by
  have hx := (pageLayout_bounds h opt).1
  have hdepth := opt.depth_le
  rw [pageLayout_depth, UInt32.toNat_mul]
  have hprod := Nat.mul_le_mul hx hdepth
  exact Nat.mod_eq_of_lt (by omega)

theorem dmpaper_zero (hpaper : (pageLayout hdr opt).dmpaper = 0) :
    pageLayout hdr opt = customLayout hdr opt.depth := by
  rcases pageLayout_cases hdr opt with ⟨p, hp, hlay⟩ | ⟨-, -, hlay⟩ | ⟨-, -, hlay⟩
  · rw [hlay] at hpaper
    exact absurd hpaper (paperTable_bounds p (List.mem_of_find?_eq_some hp)).2.2.2.2
  · rw [hlay] at hpaper
    exact absurd hpaper (show ¬ zjDmpaperA5Rotated = 0 by decide)
  · exact hlay

theorem sizeFits_of_dmpaper (hpaper : (pageLayout hdr opt).dmpaper ≠ 0) : hdr.SizeFits := by
  rcases pageLayout_cases hdr opt with ⟨p, hp, -⟩ | ⟨-, hsize, -⟩ | ⟨-, -, hlay⟩
  · obtain ⟨-, -, hw, hh, -⟩ := paperTable_bounds p (List.mem_of_find?_eq_some hp)
    have hmatch := List.find?_some hp
    rw [Bool.and_eq_true, beq_iff_eq, beq_iff_eq] at hmatch
    rw [hmatch.1] at hw
    rw [hmatch.2] at hh
    exact ⟨by omega, by omega⟩
  · constructor <;> rw [hsize] <;> decide
  · rw [hlay] at hpaper
    exact absurd rfl hpaper

theorem customLayout_tight (h : hdr.accepted = true) (depth : UInt32) :
    hdr.cupsWidth.toNat ≤ (customLayout hdr depth).videoX.toNat ∧
      (customLayout hdr depth).videoX.toNat < hdr.cupsWidth.toNat + 32 ∧
      hdr.cupsHeight.toNat ≤ (customLayout hdr depth).videoY.toNat ∧
      (customLayout hdr depth).videoY.toNat < hdr.cupsHeight.toNat + 8 := by
  obtain ⟨hx, hy⟩ := customLayout_size h depth
  omega

/-- The items of a page and an image of the size of its layout are exact when the size of the sheet
fits the custom items. -/
theorem exact_iff (h : hdr.accepted = true) (opt : JobOptions) (bitmap : List UInt8) :
    SentPage.Exact hdr ⟨pageItems hdr (pageLayout hdr opt) opt, bitmap,
      (pageLayout hdr opt).videoX * (pageLayout hdr opt).depth, (pageLayout hdr opt).videoY⟩ ↔
    hdr.SizeFits := by
  have hreg := pageLayout_regular h opt
  obtain ⟨hx, hbpp, hrx⟩ := itemValue_width hdr (pageLayout hdr opt) opt
  have hpaper := itemValue_paper hdr (pageLayout hdr opt) opt
  constructor
  · intro hexact
    by_cases hzero : (pageLayout hdr opt).dmpaper = 0
    · obtain ⟨w, h, -, -, hw, -, hh, -⟩ := hexact.size (by rw [hpaper, hzero])
      exact ⟨hw ▸ w.toNat_lt, hh ▸ h.toNat_lt⟩
    · exact sizeFits_of_dmpaper hzero
  · rintro ⟨hwidth, hheight⟩
    refine ⟨pageItems_nodup _ _ _, ⟨_, _, hx, hbpp, hreg.widthPos, Nat.dvd_of_mod_eq_zero hreg.width,
      rasterX_toNat h opt, hrx⟩, itemValue_height _ _ _, fun _ htype => pageItems_custom htype,
      fun hcustom => ?_⟩
    rw [hpaper, Option.some_inj] at hcustom
    obtain ⟨hw, hh⟩ := itemValue_custom hdr opt hcustom
    refine ⟨_, _, _, hw, ?_, hh, ?_, hx, ?_⟩
    · rw [UInt32.toNat_ofNat', Nat.mod_eq_of_lt hwidth]
    · rw [UInt32.toNat_ofNat', Nat.mod_eq_of_lt hheight]
    · rw [dmpaper_zero hcustom]
      exact customLayout_tight h _

/-- A page that is written out is exact when the size of its sheet fits, and so is a blank sheet
unless it is turned. -/
theorem geometry_exact_iff (env : Env) (opt : JobOptions) (page : UInt32) (k : Sink) :
    (∀ (p : RasterPage) (s : Filter), Renders env opt page p → s.raster.lines = p.lines →
      renderPage env page k p.hdr opt s =
          putBlock env k (((sentPage p.hdr opt p.lines).chunks env).flatMap Chunk.bytes)
            { s with raster := ⟨[], s.raster.pages⟩ } ∧
        ((sentPage p.hdr opt p.lines).Exact p.hdr ↔ p.hdr.SizeFits)) ∧
    (∀ hdr : PageHeader, hdr.accepted = true → blankRenders env opt page hdr = true →
      (pageLayout hdr opt).rotate90 = false →
      renderBlankPage env page k hdr opt =
          putBlock env k (((sentBlank hdr opt).chunks env).flatMap Chunk.bytes) ∧
        ((sentBlank hdr opt).Exact hdr ↔ hdr.SizeFits)) := by
  refine ⟨fun p s h hs => ⟨renderPage_block h hs, exact_iff h.accepted opt _⟩,
    fun hdr h hblank hturn => ⟨?_, exact_iff h opt _⟩⟩
  rw [renderBlankPage_block hblank]
  unfold blankBlock blankImage
  simp only [hturn, Bool.false_eq_true, if_false]
  rfl

def shortPage (width : UInt32) : RasterPage where
  hdr := ⟨(600, 600), 1, (width, 72), 8, 1, 0, 8, 8, 0⟩
  lines := [List.replicate 8 0]
  wide := by simp
  tall := show 1 ≤ (1 : UInt32).toNat by decide

/-- An encoder that makes the shortest BIE of every image. -/
def shortEnv : Env := { jbig := fun _ _ _ => [List.replicate 20 0] }

def plainOptions : JobOptions := ⟨2, false, false, false, false, 0⟩

theorem geometry_exact_shortPage :
    (shortPage 100).hdr.SizeFits ∧
      ((sentPage (shortPage 100).hdr plainOptions (shortPage 100).lines).Exact (shortPage 100).hdr ↔
        (shortPage 100).hdr.SizeFits) := by
  have h : Renders shortEnv plainOptions 1 (shortPage 100) := by decide +kernel
  exact ⟨⟨by decide, by decide⟩, ((geometry_exact_iff shortEnv plainOptions 1 .stdout).1 (shortPage 100)
    { raster := ⟨(shortPage 100).lines, []⟩ } h rfl).2⟩

/-- The width of this sheet is 2 ^ 32 + 4 dots. -/
theorem longSheet_truncated : ¬ ∀ (env : Env) (opt : JobOptions) (page : UInt32) (p : RasterPage),
    Renders env opt page p → (sentPage p.hdr opt p.lines).Exact p.hdr := by
  intro h
  have hrenders : Renders shortEnv plainOptions 1 (shortPage 515396076) := by decide +kernel
  obtain ⟨w, _, _, hw, hsize, -⟩ := (h shortEnv plainOptions 1 (shortPage 515396076) hrenders).size rfl
  obtain rfl : 4 = w := Option.some.inj hw
  revert hsize
  decide

end PantumOpen.Print
