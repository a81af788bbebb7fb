import PantumOpen.Scan.Devices

/-! The configuration files: how `sane_pantum_init` reads them, and what a file in the usual syntax makes
of the devices on the bus. -/

namespace PantumOpen.Scan
open Prog

namespace Config

def isSpace (c : Char) : Bool := c == ' ' || (0x09 ≤ c.toNat && c.toNat ≤ 0x0d)

def skipSpace (s : CString) : CString := s.dropWhile isSpace

def skipWord (s : CString) : CString := s.dropWhile fun c => !isSpace c

def digitValue (c : Char) : Nat :=
  if c.isDigit then c.toNat - '0'.toNat else c.toLower.toNat - 'a'.toNat + 10

def isHexDigit (c : Char) : Bool := c.isDigit || (let l := c.toLower; 'a' ≤ l && l ≤ 'f')

def isOctDigit (c : Char) : Bool := '0' ≤ c && c ≤ '7'

def number (base : Nat) (digits : CString) : Nat := digits.foldl (fun n c => n * base + digitValue c) 0

def scanBase (base : Nat) (p : Char → Bool) (s : CString) : Option (Nat × CString) :=
  if (s.takeWhile p).isEmpty then none else some (number base (s.takeWhile p), s.dropWhile p)

/-- The digits of `%i`: sixteen after `0x`, eight after `0`, else ten. -/
def scanDigits (s : CString) : Option (Nat × CString) :=
  if s.head? = some '0' then
    if s.tail.head? = some 'x' ∨ s.tail.head? = some 'X' then scanBase 16 isHexDigit (s.drop 2)
    else scanBase 8 isOctDigit s
  else scanBase 10 Char.isDigit s

/-- What an `int` holds of a number that `strtol` has pinned to the range of `long`. -/
def toInt (n : Int) : Int := ((max (-2 ^ 63) (min n (2 ^ 63 - 1)) + 2 ^ 31) % 2 ^ 32) - 2 ^ 31

def scanInt (s : CString) : Option (Int × CString) :=
  let s := skipSpace s
  let sign := s.head?
  (scanDigits (if sign = some '-' ∨ sign = some '+' then s.tail else s)).map fun r =>
    (toInt (if sign = some '-' then -r.1 else r.1), r.2)

/-- What follows the two numbers: the optional model name. -/
def modelName (p : CString) : CString :=
  (skipSpace (skipWord (skipSpace (skipWord (skipSpace p))))).rdropWhile isSpace

def usbWord : CString := ['u', 's', 'b']

def parseConfigLine (line : CString) : Option (Nat × Nat × CString) :=
  let p := skipSpace line
  if p.isEmpty || p.head? == some '#' then none
  else if p.take 3 ≠ usbWord then none
  else
    match scanInt (p.drop 3) with
    | none => none
    | some (vid, rest) =>
      match scanInt rest with
      | none => none
      | some (pid, _) =>
        if vid < 0 ∨ vid > 0xffff ∨ pid < 0 ∨ pid > 0xffff then none
        else some (vid.toNat, pid.toNat, modelName (p.drop 3))

/-- `fgets` into a buffer of `size` bytes: what it takes and what it leaves. -/
def fgets (size : Nat) (s : CString) : CString × CString :=
  let n := min ((s.takeWhile fun c => c != '\n').length + 1) (size - 1)
  (s.take n, s.drop n)

/-- What successive calls of `fgets` hand out, each up to its first NUL. A call takes at least one
byte, so that the length of the file bounds them. -/
def configLines : Nat → CString → List CString
  | 0, _ => []
  | n + 1, s =>
    if s.isEmpty then []
    else ((fgets 512 s).1.takeWhile fun c => c != '\x00') :: configLines n (fgets 512 s).2

def defaultModel : CString := ['M', '6', '5', '0', '0', ' ', 's', 'e', 'r', 'i', 'e', 's']

end Config

open Config

namespace Backend

/-- What `read_config` finds: the value of SANE_CONFIG_DIR, the directory the backend was built for,
and the files that can be opened. -/
structure ConfigFiles where
  envDir : Option CString
  configDir : CString
  fopen : CString → Option CString

def configPath (dir : CString) : CString := dir ++ "/pantum.conf".toList

/-- The text of the configuration file in a directory; its path has to fit a buffer. -/
def ConfigFiles.text (conf : ConfigFiles) (dir : CString) : Option CString :=
  if (configPath dir).length ≥ 1024 then none else conf.fopen (configPath dir)

def splitDirs (dirs : CString) : List CString := (dirs.splitOn ':').filter fun dir => !dir.isEmpty

end Backend

/-! ### Lines in the usual syntax -/

/-- A number in hexadecimal, with the blanks that stand in front of it. -/
structure HexWord where
  blanks : CString
  mark : Char
  digits : CString

namespace HexWord

def text (w : HexWord) : CString := w.blanks ++ '0' :: w.mark :: w.digits

def value (w : HexWord) : Nat := number 16 w.digits

structure Usual (w : HexWord) : Prop where
  apart : w.blanks ≠ []
  blank : ∀ c ∈ w.blanks, isSpace c = true
  mark : w.mark = 'x' ∨ w.mark = 'X'
  nonempty : w.digits ≠ []
  digit : ∀ c ∈ w.digits, isHexDigit c = true
  fits : w.value < 2 ^ 16

end HexWord

/-- A line about a scanner: its numbers, an optional name, and the blanks around them. -/
structure ScannerLine where
  indent : CString
  vid : HexWord
  pid : HexWord
  gap : CString
  model : CString
  rest : CString

namespace ScannerLine

def text (l : ScannerLine) : CString :=
  l.indent ++ (usbWord ++ (l.vid.text ++ (l.pid.text ++ (l.gap ++ (l.model ++ l.rest)))))

/-- A name does not begin or end with a blank. -/
structure Usual (l : ScannerLine) : Prop where
  vid : l.vid.Usual
  pid : l.pid.Usual
  indent : ∀ c ∈ l.indent, isSpace c = true
  gap : ∀ c ∈ l.gap, isSpace c = true
  rest : ∀ c ∈ l.rest, isSpace c = true
  apart : l.model ≠ [] → l.gap ≠ []
  first : ∀ c, l.model.head? = some c → isSpace c = false
  last : ∀ c, l.model.getLast? = some c → isSpace c = false

/-- The name of the scanner. -/
def name (l : ScannerLine) : CString := if l.model.isEmpty then defaultModel else l.model

end ScannerLine

/-- A line of a configuration file. -/
inductive ConfigLine
  | usb (line : ScannerLine)
  | other (text : CString)

namespace ConfigLine

def text : ConfigLine → CString
  | .usb line => line.text
  | .other text => text

/-- A line that fits the buffer of `read_config_file`. What stands on a line that is not about a
scanner is nothing, a comment, or a word that does not begin with `usb`. -/
structure Clean (l : ConfigLine) : Prop where
  short : l.text.length < 511
  whole : ∀ c ∈ l.text, c ≠ '\n' ∧ c ≠ '\x00'
  usual : ∀ line, l = .usb line → line.Usual
  skipped : ∀ text, l = .other text → skipSpace text = [] ∨ (skipSpace text).head? = some '#' ∨
    (skipSpace text).take 3 ≠ usbWord

def id : ConfigLine → Option PantumId
  | .usb line => some ⟨line.vid.value, line.pid.value, some line.name⟩
  | .other _ => none

end ConfigLine

namespace Config

theorem isSpace_iff {c : Char} (h : isSpace c = true) :
    c ∈ [' ', '\t', '\n', '\x0b', '\x0c', '\r'] := by
  unfold isSpace at h
  simp only [Bool.or_eq_true, beq_iff_eq, Bool.and_eq_true, decide_eq_true_eq] at h
  rcases h with rfl | ⟨hlo, hhi⟩
  · decide
  · have hall : ∀ n ≤ 0x0d, 0x09 ≤ n → Char.ofNat n ∈ [' ', '\t', '\n', '\x0b', '\x0c', '\r'] := by
      decide
    have hc := hall c.toNat hhi hlo
    rwa [Char.ofNat_toNat] at hc

theorem isHexDigit_notSpace {c : Char} (h : isHexDigit c = true) : isSpace c = false := by
  have hall : ([' ', '\t', '\n', '\x0b', '\x0c', '\r'].all fun c => !isHexDigit c) = true := by decide
  by_contra hspace
  rw [Bool.not_eq_false] at hspace
  have hno := List.all_eq_true.mp hall c (isSpace_iff hspace)
  rw [h] at hno
  cases hno

theorem takeWhile_word {p : Char → Bool} {w rest : CString} (hw : ∀ c ∈ w, p c = true)
    (hrest : ∀ c, rest.head? = some c → p c = false) :
    (w ++ rest).takeWhile p = w ∧ (w ++ rest).dropWhile p = rest := by
  induction w with
  | nil =>
    cases rest with
    | nil => exact ⟨rfl, rfl⟩
    | cons c rest =>
      have hc := hrest c rfl
      exact ⟨List.takeWhile_cons_of_neg (by simp [hc]), List.dropWhile_cons_of_neg (by simp [hc])⟩
  | cons c w ih =>
    have hc := hw c List.mem_cons_self
    obtain ⟨htake, hdrop⟩ := ih fun d hd => hw d (List.mem_cons_of_mem _ hd)
    rw [List.cons_append, List.takeWhile_cons_of_pos hc, List.dropWhile_cons_of_pos hc, htake, hdrop]
    exact ⟨rfl, rfl⟩

theorem skipSpace_blanks {blanks rest : CString} (hblank : ∀ c ∈ blanks, isSpace c = true)
    (hrest : ∀ c, rest.head? = some c → isSpace c = false) : skipSpace (blanks ++ rest) = rest :=
  (takeWhile_word hblank hrest).2

/-- The blanks around a name go. -/
theorem skipSpace_trim {gap model rest : CString} (hgap : ∀ c ∈ gap, isSpace c = true)
    (hrest : ∀ c ∈ rest, isSpace c = true) (hfirst : ∀ c, model.head? = some c → isSpace c = false)
    (hlast : ∀ c, model.getLast? = some c → isSpace c = false) :
    (skipSpace (gap ++ (model ++ rest))).rdropWhile isSpace = model := by
  by_cases hm : model = []
  · have hnil : skipSpace (gap ++ rest ++ []) = [] :=
      skipSpace_blanks (List.forall_mem_append.mpr ⟨hgap, hrest⟩) fun c hc => by cases hc
    rw [hm, List.nil_append, ← List.append_nil (gap ++ rest), hnil]
    rfl
  · have hskip : skipSpace (gap ++ (model ++ rest)) = model ++ rest := by
      refine skipSpace_blanks hgap fun c hc => hfirst c ?_
      rwa [List.head?_append_of_ne_nil _ hm] at hc
    have hdrop : (rest.reverse ++ model.reverse).dropWhile isSpace = model.reverse :=
      (takeWhile_word (fun c hc => hrest c (List.mem_reverse.mp hc))
        fun c hc => hlast c (by rwa [List.head?_reverse] at hc)).2
    rw [hskip, List.rdropWhile, List.reverse_append, hdrop, List.reverse_reverse]

theorem toInt_small {n : Nat} (hn : n < 2 ^ 16) : toInt n = n := by
  unfold toInt
  omega

end Config

namespace HexWord
variable {w : HexWord}

theorem Usual.skipSpace (hw : w.Usual) (rest : CString) :
    Config.skipSpace (w.text ++ rest) = '0' :: w.mark :: (w.digits ++ rest) := by
  unfold text
  rw [List.append_assoc]
  exact skipSpace_blanks hw.blank fun c hc => by cases hc; rfl

theorem Usual.scanInt (hw : w.Usual) {rest : CString}
    (hrest : ∀ c, rest.head? = some c → isHexDigit c = false) :
    Config.scanInt (w.text ++ rest) = some ((w.value : Int), rest) := by
  obtain ⟨htake, hdrop⟩ := takeWhile_word hw.digit hrest
  have hbase : scanBase 16 isHexDigit (w.digits ++ rest) = some (w.value, rest) := by
    unfold scanBase
    rw [htake, hdrop, if_neg (by simpa using hw.nonempty)]
    rfl
  have hdigits : scanDigits ('0' :: w.mark :: (w.digits ++ rest)) = some (w.value, rest) := by
    unfold scanDigits
    have hmark : some w.mark = some 'x' ∨ some w.mark = some 'X' :=
      hw.mark.imp (congrArg some) (congrArg some)
    rw [if_pos (by rfl), List.tail_cons, List.head?_cons, if_pos hmark]
    exact hbase
  have hhead : ('0' :: w.mark :: (w.digits ++ rest)).head? = some '0' := rfl
  unfold Config.scanInt
  rw [hw.skipSpace]
  simp only [hhead]
  rw [if_neg (by decide), hdigits, Option.map_some, if_neg (by decide), toInt_small hw.fits]

theorem Usual.skipWord (hw : w.Usual) {rest : CString}
    (hrest : ∀ c, rest.head? = some c → isSpace c = true) :
    Config.skipWord (Config.skipSpace (w.text ++ rest)) = rest := by
  have hmark : isSpace w.mark = false := by
    rcases hw.mark with h | h <;> rw [h] <;> rfl
  have hword : ∀ c ∈ '0' :: w.mark :: w.digits, (!isSpace c) = true :=
    List.forall_mem_cons.mpr ⟨rfl, List.forall_mem_cons.mpr ⟨by rw [hmark]; rfl,
      fun c hc => by rw [isHexDigit_notSpace (hw.digit c hc)]; rfl⟩⟩
  rw [hw.skipSpace]
  exact (takeWhile_word hword fun c hc => by rw [hrest c hc]; rfl).2

/-- A word begins with a blank. -/
theorem Usual.head (hw : w.Usual) (rest : CString) :
    ∀ c, (w.text ++ rest).head? = some c → isSpace c = true := by
  intro c hc
  unfold text at hc
  rw [List.append_assoc, List.head?_append_of_ne_nil _ hw.apart] at hc
  exact hw.blank c (List.mem_of_mem_head? hc)

end HexWord

namespace ConfigLine

theorem parse_usb {l : ScannerLine} (h : l.Usual) :
    parseConfigLine (l.text ++ ['\n']) = some (l.vid.value, l.pid.value, l.model) := by
  have hrest : ∀ c ∈ l.rest ++ ['\n'], isSpace c = true :=
    List.forall_mem_append.mpr ⟨h.rest, List.forall_mem_singleton.mpr rfl⟩
  -- What stands behind the two numbers begins with a space in any case.
  have htail : ∀ c, (l.gap ++ (l.model ++ (l.rest ++ ['\n']))).head? = some c → isSpace c = true := by
    intro c hc
    by_cases hgap : l.gap = []
    · have hmodel : l.model = [] := by
        by_contra hne
        exact h.apart hne hgap
      rw [hgap, hmodel] at hc
      exact hrest c (List.mem_of_mem_head? hc)
    · rw [List.head?_append_of_ne_nil _ hgap] at hc
      exact h.gap c (List.mem_of_mem_head? hc)
  have hmodel := skipSpace_trim h.gap hrest h.first h.last
  have hline : l.text ++ ['\n'] = l.indent ++ (usbWord ++ (l.vid.text ++ (l.pid.text ++
      (l.gap ++ (l.model ++ (l.rest ++ ['\n'])))))) := by
    simp only [ScannerLine.text, List.append_assoc]
  generalize l.gap ++ (l.model ++ (l.rest ++ ['\n'])) = tail at htail hmodel hline
  have hnext := h.pid.head tail
  have hname : modelName (l.vid.text ++ (l.pid.text ++ tail)) = l.model := by
    unfold modelName
    rw [h.vid.skipWord hnext, h.pid.skipWord htail, hmodel]
  have hnotDigit {rest : CString} (hspace : ∀ c, rest.head? = some c → isSpace c = true) :
      ∀ c, rest.head? = some c → isHexDigit c = false := by
    intro c hc
    by_contra hdigit
    rw [Bool.not_eq_false] at hdigit
    exact absurd ((isHexDigit_notSpace hdigit).symm.trans (hspace c hc)) Bool.false_ne_true
  have hvid := h.vid.scanInt (hnotDigit hnext)
  have hpid := h.pid.scanInt (hnotDigit htail)
  have hskip (rest : CString) : skipSpace (l.indent ++ (usbWord ++ rest)) = usbWord ++ rest :=
    skipSpace_blanks h.indent fun c hc => by cases hc; rfl
  have hhead (rest : CString) : ((usbWord ++ rest).isEmpty || (usbWord ++ rest).head? == some '#') =
      false := rfl
  have hrange : ¬ ((l.vid.value : Int) < 0 ∨ (l.vid.value : Int) > 0xffff ∨ (l.pid.value : Int) < 0 ∨
      (l.pid.value : Int) > 0xffff) := by
    have hvlt := h.vid.fits
    have hplt := h.pid.fits
    omega
  have hdrop (rest : CString) : (usbWord ++ rest).drop 3 = rest := rfl
  have htake (rest : CString) : (usbWord ++ rest).take 3 = usbWord := rfl
  unfold parseConfigLine
  rw [hline]
  simp only [hskip, hhead, hdrop, htake, hvid, hpid, hname]
  rw [if_neg (by decide), if_neg (by decide), if_neg hrange]
  rfl

theorem parse_other {text : CString} (h : Clean (.other text)) :
    parseConfigLine ((ConfigLine.other text).text ++ ['\n']) = none := by
  change parseConfigLine (text ++ ['\n']) = none
  unfold parseConfigLine
  dsimp only
  by_cases hnil : skipSpace text = []
  · have hskip : skipSpace (text ++ ['\n']) = [] := by
      unfold skipSpace at hnil ⊢
      rw [List.dropWhile_append, hnil]
      rfl
    rw [hskip]
    rfl
  have hskip : skipSpace (text ++ ['\n']) = skipSpace text ++ ['\n'] := by
    unfold skipSpace at hnil ⊢
    rw [List.dropWhile_append, if_neg (by simpa using hnil)]
  rw [hskip]
  rcases h.skipped text rfl with hempty | hcomment | hother
  · exact absurd hempty hnil
  · have hhead : (skipSpace text ++ ['\n']).head? = some '#' := by
      rw [List.head?_append, hcomment]
      rfl
    rw [hhead, if_pos (by simp)]
  · have htake : (skipSpace text ++ ['\n']).take 3 ≠ usbWord := by
      intro hword
      by_cases hlen : 3 ≤ (skipSpace text).length
      · rw [List.take_append_of_le_length hlen] at hword
        exact hother hword
      · -- a shorter word would show the end of the line
        have hmem : '\n' ∈ (skipSpace text ++ ['\n']).take 3 := by
          have hshort : (skipSpace text ++ ['\n']).length ≤ 3 := by
            rw [List.length_append, List.length_singleton]
            omega
          rw [List.take_of_length_le hshort]
          simp
        rw [hword] at hmem
        exact absurd hmem (by decide)
    rw [if_pos htake, ite_self]

theorem Clean.parse {l : ConfigLine} (h : l.Clean) :
    ((parseConfigLine (l.text ++ ['\n'])).map fun r =>
      (⟨r.1, r.2.1, some (if r.2.2.isEmpty then defaultModel else r.2.2)⟩ : PantumId)) = l.id := by
  cases l with
  | usb line =>
    have hparse : parseConfigLine ((ConfigLine.usb line).text ++ ['\n']) =
        some (line.vid.value, line.pid.value, line.model) := parse_usb (h.usual line rfl)
    rw [hparse]
    rfl
  | other text =>
    rw [parse_other h]
    rfl

end ConfigLine

namespace Backend
variable {s : Backend} {conf : ConfigFiles}

theorem alloc_room (h : s.allocs = []) : alloc s = (.ok true, s) := by
  unfold alloc
  rw [h]

def lineId (line : CString) : Option PantumId :=
  (parseConfigLine line).map fun r =>
    ⟨r.1, r.2.1, some (if r.2.2.isEmpty then defaultModel else r.2.2)⟩

def textIds (text : CString) : List PantumId := (configLines text.length text).filterMap lineId

/-- The texts that `read_config` reads, in its order. -/
def ConfigFiles.texts (conf : ConfigFiles) : List CString :=
  let named := (splitDirs (conf.envDir.getD [])).filterMap conf.text
  if named = [] then (conf.text conf.configDir).toList else named

def ConfigFiles.ids (conf : ConfigFiles) : List PantumId :=
  if conf.texts = [] then [⟨0x232b, 0x0e20, some defaultModel⟩]
  else (conf.texts.flatMap textIds).reverse

def listed (ids : List PantumId) (u : UsbDevice) : Option (CString × CString × Nat × Nat × Nat × Nat) :=
  (matchingId ids u).bind fun id => id.model.map fun model =>
    (deviceName u.bus u.addr, model, u.bus, u.addr, id.vid, id.pid)

end Backend

end PantumOpen.Scan
