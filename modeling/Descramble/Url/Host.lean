import Descramble.Fault
import Descramble.Text.Character
import Descramble.Url.Name.Label
import Descramble.Url.Percent

namespace Descramble.Url

/-- An IPv4 address is a number below 2^32, an IPv6 address a list of eight pieces of 16 bits. -/
inductive Host
  | name (s : Text)
  | ipv4 (address : Nat)
  | ipv6 (pieces : List Nat)
  deriving DecidableEq

namespace Ipv4

def numeral? (base : Nat) (s : Text) : Option Nat :=
  s.foldlM (fun n c => do
    let d ← digit? c
    if d < base then some (base * n + d) else none) 0
where
  digit? (c : Char) : Option Nat :=
    if c.isDigit then some (c.toNat - 48)
    else if 'a' ≤ c ∧ c ≤ 'f' then some (c.toNat - 87)
    else if 'A' ≤ c ∧ c ≤ 'F' then some (c.toNat - 55)
    else none

/-- A part of an address: hexadecimal behind `0x`, octal behind `0`, else decimal. -/
def part? : Text → Option Nat
  | [] => none
  | '0' :: 'x' :: s => numeral? 16 s
  | '0' :: 'X' :: s => numeral? 16 s
  | '0' :: c :: s => numeral? 8 (c :: s)
  | s => numeral? 10 s

def lastLabel (labels : List Text) : Text :=
  match labels.reverse with
  | [] :: label :: _ => label
  | label :: _ => label
  | [] => []

def isNumeric (labels : List Text) : Bool :=
  let last := lastLabel labels
  (!last.isEmpty && last.all Char.isDigit) || (part? last).isSome

/-- All parts but the last are bytes, and the last one fills the rest of the address. -/
def combine? (parts : List Nat) : Option Nat :=
  match parts.reverse with
  | [] => none
  | last :: front =>
    let rest := Nat.pow 256 (4 - front.length)
    if front.length ≤ 3 ∧ last < rest ∧ front.all (· < 256) then
      some (front.reverse.foldl (fun n p => 256 * n + p) 0 * rest + last)
    else none

def ofLabels? (labels : List Text) : Option Nat := do
  let labels := if labels.getLast? = some [] then labels.dropLast else labels
  let parts ← labels.mapM part?
  combine? parts

def text (address : Nat) : Text :=
  Text.join ['.'] ([address / 16777216 % 256, address / 65536 % 256, address / 256 % 256,
    address % 256].map Text.decimal)

end Ipv4

namespace Ipv6

def piece? (s : Text) : Option Nat :=
  if 1 ≤ s.length ∧ s.length ≤ 4 then Ipv4.numeral? 16 s else none

def byte? (s : Text) : Option Nat :=
  match s with
  | [] => none
  | ['0'] => some 0
  | '0' :: _ => none
  | s => (Ipv4.numeral? 10 s).filter (· < 256)

/-- Four bytes in decimal stand for the last two pieces. -/
def dotted? (s : Text) : Option (List Nat) :=
  match (Text.pieces (· == '.') s).mapM byte? with
  | some [a, b, c, d] => some [256 * a + b, 256 * c + d]
  | _ => none

def group? (s : Text) : Option (List Nat) := ((piece? s).map fun p => [p])

def groups? : List Text → Option (List Nat)
  | [] => none
  | [s] => if s.contains '.' then dotted? s else group? s
  | s :: ss => do
    let p ← piece? s
    let ps ← groups? ss
    return p :: ps

def side? (s : Text) : Option (List Nat) :=
  if s.isEmpty then some [] else groups? (Text.pieces (· == ':') s)

def splitAtGap? : Text → Option (Text × Text)
  | ':' :: ':' :: s => some ([], s)
  | c :: s => (splitAtGap? s).map fun p => (c :: p.1, p.2)
  | [] => none

/-- A double colon stands for as many zero pieces as are missing, and for one at least. -/
def ofText? (s : Text) : Option (List Nat) :=
  match splitAtGap? s with
  | none => (side? s).filter (·.length == 8)
  | some (left, right) => do
    let ls ← if left.contains '.' then none else side? left
    let rs ← side? right
    if ls.length + rs.length ≤ 7 then
      some (ls ++ List.replicate (8 - ls.length - rs.length) 0 ++ rs)
    else none

def longestGap (start : Nat) : List Nat → Nat × Nat
  | [] => (start, 0)
  | p :: ps =>
    let run := ((p :: ps).takeWhile (· == 0)).length
    let later := longestGap (start + 1) ps
    if later.2 ≤ run then (start, run) else later

def pieceText (ps : List Nat) : Text := Text.join [':'] (ps.map (Nat.toDigits 16))

/-- The longest run of two or more zeros is left out. -/
def text (pieces : List Nat) : Text :=
  let (start, length) := longestGap 0 pieces
  if 2 ≤ length then
    pieceText (pieces.take start) ++ [':', ':'] ++ pieceText (pieces.drop (start + length))
  else pieceText pieces

end Ipv6

namespace Host

def text : Host → Text
  | name s => s
  | ipv4 address => Ipv4.text address
  | ipv6 pieces => '[' :: Ipv6.text pieces ++ [']']

def isEmpty : Host → Bool
  | name s => s.isEmpty
  | _ => false

def isReserved (c : Char) : Bool :=
  ['\x00', '\t', '\n', '\r', ' ', '#', '/', ':', '<', '>', '?', '@', '[', '\\', ']', '^',
    '|'].contains c

def isForbidden (c : Char) : Bool := isReserved c || isUnprintable c || c == '%'

def bracketed (s : Text) : Except Fault Host :=
  match s.getLast? with
  | some ']' =>
    match Ipv6.ofText? s.dropLast with
    | some pieces => .ok (ipv6 pieces)
    | none => .error .invalidIpv6
  | _ => .error .invalidIpv6

/-- Names are put into ASCII and lower case; those that end in a number are addresses. -/
def ofDomain (s : Text) : Except Fault Host :=
  match s with
  | '[' :: r => bracketed r
  | s =>
    match (Text.ofUtf8? (percentDecode (Text.utf8 s))).bind Name.ascii? with
    | none => .error .invalidHostName
    | some s =>
      if s.any isForbidden then .error .invalidHostName
      else if s.isEmpty then .error .emptyHost
      else
        let labels := Text.pieces (· == '.') (s.map Char.toLower)
        if !Name.isName labels then .error .invalidHostName
        else if Ipv4.isNumeric labels then
          match Ipv4.ofLabels? labels with
          | some address => .ok (ipv4 address)
          | none => .error .invalidIpv4
        else .ok (name (s.map Char.toLower))

def ofOpaque (s : Text) : Except Fault Host :=
  match s with
  | '[' :: r => bracketed r
  | s =>
    if s.any isReserved then .error .invalidHostCharacter
    else .ok (name (percentEncode isUnprintable s))

end Host
end Descramble.Url
