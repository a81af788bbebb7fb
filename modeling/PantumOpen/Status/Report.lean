import PantumOpen.Lib.Lines
import PantumOpen.Lib.Prog

/-! What the status tool makes of the text a printer sends. -/

namespace PantumOpen.Status
open Prog

/-- What can leave a block of the tool early; Ctrl-C and SIGTERM both count as `stopped`. -/
inductive Raised
  | blockingIOError | osError | valueError | stopped
  deriving DecidableEq, Repr

def latin1 (s : String) : List UInt8 := s.toList.map fun c => UInt8.ofNat c.toNat

/-- `str.isspace` among the characters of Latin-1. -/
def isSpace (c : UInt8) : Bool :=
  (9 ≤ c && c ≤ 13) || (28 ≤ c && c ≤ 32) || c == 0x85 || c == 0xa0

/-- The characters of Latin-1 that `str.splitlines` takes for the end of a line. -/
def isLineEnd (c : UInt8) : Bool := (10 ≤ c && c ≤ 13) || (28 ≤ c && c ≤ 30) || c == 0x85

def splitlines : List UInt8 → List (List UInt8)
  | [] => []
  | c :: rest =>
    -- a carriage return and the line feed behind it are one end of a line
    if c = 13 ∧ rest.head? = some 10 then splitlines rest
    else if isLineEnd c then [] :: splitlines rest
    else match splitlines rest with
      | [] => [[c]]
      | line :: lines => (c :: line) :: lines

def strip : List UInt8 → List UInt8 := Lines.trim isSpace

/-- `str.isdigit`, to which the raised digits are digits too. -/
def isDigit (c : UInt8) : Bool := (48 ≤ c && c ≤ 57) || c == 0xb2 || c == 0xb3 || c == 0xb9

def int (code : List UInt8) : Except Raised Nat :=
  if code.length > 4300 || code.any (57 < ·) then .error .valueError
  else .ok (code.foldl (fun n c => 10 * n + (c.toNat - 48)) 0)

def pjlStatus : List (String × String) :=
  [("10001", "ready (online)"),
    ("10002", "ready (idle) -- the normal resting code of this firmware"),
    ("10003", "warming up"),
    ("10004", "self test"),
    ("10005", "reset / processing a job"),
    ("10006", "toner low"),
    ("10023", "printing"),
    ("10024", "printing test page"),
    ("40000", "sleep"),
    ("40021", "front cover open"),
    ("40600", "cartridge removed / not installed"),
    ("42000", "feed jam -- also what an empty tray reports")]

def statusClass (code : List UInt8) : Except Raised String :=
  if code.isEmpty || !code.all isDigit then .ok "unparsable"
  else do
    let n ← int code
    if n < 10000 then .ok "informational (<10000)"
    else if n < 20000 then .ok "device status / ready class (10000-19999)"
    else if n < 30000 then .ok "background paper-mount / media class (20000-29999)"
    else if n < 40000 then .ok "auto-continuable error (30000-39999)"
    else if n < 50000 then .ok "operator intervention required (40000-49999)"
    else .ok "unclassified (>=50000)"

def describe (code : List UInt8) : Except Raised String :=
  match pjlStatus.find? fun entry => latin1 entry.1 == code with
  | some (_, text) => do
    let group ← statusClass code
    .ok (text ++ " -- " ++ group)
  | none => statusClass code

/-- A line that is put out, without its time stamp: a report, with the meaning of its code. -/
structure Report where
  line : List UInt8
  meaning : Option String := none
  deriving DecidableEq, Repr

structure Notes where
  last : List UInt8 → Option (List UInt8) := fun _ => none
  emitted : List Report := []

def emit (r : Report) : Prog Raised Notes Unit := modify fun n => ⟨n.last, n.emitted ++ [r]⟩

/-- The printer echoes the requests it answers. -/
def isEcho (line : List UInt8) : Bool :=
  (latin1 "@PJL INFO").isPrefixOf line || (latin1 "@PJL USTATUS").isPrefixOf line

def codeKey : List UInt8 := latin1 "CODE="

def key (line : List UInt8) : List UInt8 := line.takeWhile (· != 61)

def emitField (line : List UInt8) : Prog Raised Notes Unit :=
  if codeKey.isPrefixOf line then
    match describe (strip (line.drop 5)) with
    | .ok meaning => emit ⟨line, some meaning⟩
    | .error e => fail e
  else emit ⟨line, none⟩

def noteField (all : Bool) (line : List UInt8) : Prog Raised Notes Unit := do
  let n ← read
  if isEcho line || (!all && n.last (key line) == some line) then pure ()
  else do
    modify fun n => ⟨fun k => if k = key line then some line else n.last k, n.emitted⟩
    emitField line

def noteLine (all : Bool) (line : List UInt8) : Prog Raised Notes Unit :=
  if (strip line).isEmpty then pure () else noteField all (strip line)

/-- `note`; `all` is the option of the same name, which `probe-job` does not have. -/
def note (all : Bool) (text : List UInt8) : Prog Raised Notes Unit :=
  forList (noteLine all) (splitlines text)

end PantumOpen.Status
