import InfinibandDiags.Errors.Thresholds
import InfinibandDiags.Route.Strings

/-! How ibqueryerrors reads the fields to suppress from its command line, and the thresholds from a
file. -/
namespace InfinibandDiags

/-- `strtok_r`: the token and what is left behind its separator, or NULL. -/
def strtokR (delim : UInt8) (s : Bytes) : Option (Bytes × Bytes) :=
  let s := s.dropWhile (· = delim)
  if s = [] then none else some (s.takeWhile (· ≠ delim), (s.dropWhile (· ≠ delim)).tail)

/-- The characters of a name. -/
def nameBytes (name : String) : Bytes := name.toList.map fun c => UInt8.ofNat c.toNat

section Suppressed

end Suppressed

section Thresholds

def newline : UInt8 := 10

/-- A numeral as an `unsigned long`: the largest where it does not fit, and negated modulo 2^64. -/
def unsignedLong (negative : Bool) (value : Nat) : Nat :=
  if value ≥ 2 ^ 64 then 2 ^ 64 - 1 else if negative then (2 ^ 64 - value) % 2 ^ 64 else value

/-- `strtoul(s, NULL, 0)`. -/
def strtoul (s : Bytes) : Nat :=
  let (negative, body) :=
    match s.dropWhile isSpace with
    | 45 :: body => (true, body)
    | 43 :: body => (false, body)
    | body => (false, body)
  let (base, digits) := numeralBase body
  unsignedLong negative
    ((digits.takeWhile (isDigitOf base)).foldl (fun v c => base * v + digitValue c) 0)

/-- `fgets` into 1024 bytes: what it stores before the NUL, and the rest of the file. -/
def fgets (file : Bytes) : Bytes × Bytes :=
  let head := file.take 1023
  let line := head.takeWhile (· ≠ newline)
  if line.length < head.length then (line ++ [newline], file.drop (line.length + 1))
  else (head, file.drop 1023)

/-- What the calls of `fgets` read, each of them something. -/
def fgetsReads : Nat → Bytes → List Bytes
  | 0, _ => []
  | fuel + 1, file =>
      if file = [] then [] else (fgets file).1 :: fgetsReads fuel (fgets file).2

end Thresholds
end InfinibandDiags
