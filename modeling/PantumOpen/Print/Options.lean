import PantumOpen.Print.Layout

/-! The options of a print job, as the filter and as its prototype read them. -/

namespace PantumOpen.Print

/-- `strcasecmp (a, b) == 0`. -/
def strcasecmp (a b : List Char) : Bool := a.map Char.toLower == b.map Char.toLower

/-- Where `opt_get` looks: what `cupsGetOption` finds among the options of the job, and the default
choices of the PPD when there is one. -/
structure OptionSource where
  job : List Char → Option (List Char)
  ppd : Option (List Char → Option (List Char)) := none

def OptionSource.get (src : OptionSource) (keyword : List Char) : Option (List Char) :=
  match src.job keyword with
  | some value => some value
  | none => (src.ppd.bind fun find => find keyword).filter fun choice => !choice.isEmpty

def OptionSource.bool (src : OptionSource) (keyword : List Char) : Bool :=
  match src.get keyword with
  | none => false
  | some v => strcasecmp v "true".toList || strcasecmp v "on".toList || strcasecmp v "yes".toList ||
      strcasecmp v "1".toList

def decimal (digits : List Char) : Nat := digits.foldl (fun n c => n * 10 + (c.toNat - '0'.toNat)) 0

namespace Prototype

def isSpace (c : Char) : Bool :=
  let n := c.toNat
  (0x09 ≤ n && n ≤ 0x0d) || (0x1c ≤ n && n ≤ 0x20) || n == 0x85 || n == 0xa0 || n == 0x1680 ||
    (0x2000 ≤ n && n ≤ 0x200a) || n == 0x2028 || n == 0x2029 || n == 0x202f || n == 0x205f || n == 0x3000

/-- `s.replace(",", " ").split()`. -/
def tokens (s : List Char) : List (List Char) :=
  ((s.map fun c => if c = ',' then ' ' else c).splitOnP isSpace).filter fun tok => !tok.isEmpty

/-- The dictionary that the tokens `key=value` build; the last one of a key stays. -/
def options (s : List Char) (key : List Char) : Option (List Char) :=
  ((tokens s).reverse.filter fun tok => tok.contains '=').findSome? fun tok =>
    let k := tok.takeWhile fun c => c != '='
    if k = key then some (tok.drop (k.length + 1)) else none

def argstr (argv : List (List Char)) : List Char :=
  if 5 < argv.length then argv.getD 5 [] else List.intercalate [' '] argv.tail

/-- `int` on a token: a sign, and digits that single underscores may part. -/
def int (s : List Char) : Option Int :=
  let digits (cs : List Char) : Option Nat :=
    if (cs.splitOnP (· == '_')).all fun part => !part.isEmpty && part.all Char.isDigit then
      some (decimal (cs.filter (· != '_')))
    else none
  match s with
  | '-' :: cs => (digits cs).map fun n => -(n : Int)
  | '+' :: cs => (digits cs).map fun n => (n : Int)
  | cs => (digits cs).map fun n => (n : Int)

def lower (s : List Char) : List Char := s.map Char.toLower

/-- `opts.get(key, "False").lower() == "true"`. -/
def isTrue (opts : List Char → Option (List Char)) (key : List Char) : Bool :=
  lower ((opts key).getD "False".toList) == "true".toList

def tray (opts : List Char → Option (List Char)) : Nat :=
  let slot := lower ((opts "InputSlot".toList).getD "Auto".toList)
  if slot = "manualfeed".toList then 1 else if slot = "autofeed".toList then 2 else 0

def density (opts : List Char → Option (List Char)) : Option Int :=
  let given : Option Int :=
    match opts "Density".toList with
    | none => some 2
    | some v => int v
  given.map fun d => if isTrue opts "TonerMode".toList then 0 else d

def switches : List (List Char) :=
  ["TonerMode".toList, "DPI1200".toList, "NegativePrint".toList, "ImageRotation".toList]

/-- A job asks the filter and the prototype for the same: both find the same values, no manual duplex
is wanted, the density is one the PPD offers and a switch is on only as `true`. -/
structure Agrees (src : OptionSource) (opts : List Char → Option (List Char)) : Prop where
  same : ∀ key ∈ "Density".toList :: "InputSlot".toList :: switches, src.get key = opts key
  simplex : src.bool "ManualDuplex".toList = false
  offered : ∀ v, opts "Density".toList = some v → v ≠ [] ∧ v.all Char.isDigit = true ∧ decimal v ≤ 4
  plain : ∀ key ∈ switches, ∀ v, opts key = some v →
    ∀ word ∈ ["on".toList, "yes".toList, "1".toList], strcasecmp v word = false

namespace Agrees
variable {src : OptionSource} {opts : List Char → Option (List Char)}

end Agrees

end Prototype

end PantumOpen.Print
