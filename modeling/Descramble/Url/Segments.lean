import Descramble.Text.Basic
import Descramble.Url.Percent

namespace Descramble.Url

inductive Family
  | file
  | special
  | other
  deriving DecidableEq

def familyOf (scheme : Text) : Family :=
  if scheme = "file".toList then .file
  else if ["http".toList, "https".toList, "ws".toList, "wss".toList, "ftp".toList].contains scheme
  then .special
  else .other

def Family.isSpecial : Family → Bool
  | .file | .special => true
  | .other => false

def defaultPort? (scheme : Text) : Option Nat :=
  [("http".toList, 80), ("ws".toList, 80), ("https".toList, 443), ("wss".toList, 443),
   ("ftp".toList, 21)].lookup scheme

def isSchemeChar (c : Char) : Bool := c.isAlphanum || c == '+' || c == '-' || c == '.'

def scheme? (s : Text) : Option (Text × Text) :=
  if s.head?.any Char.isAlpha then
    match s.dropWhile isSchemeChar with
    | ':' :: r => some ((s.takeWhile isSchemeChar).map Char.toLower, r)
    | _ => none
  else none

/-- Browsers read a backslash as a slash. -/
def Family.isSlash (f : Family) (c : Char) : Bool := c == '/' || (f.isSpecial && c == '\\')

def Family.endsAuthority (f : Family) (c : Char) : Bool := f.isSlash c || c == '?' || c == '#'

def dot? : Text → Option Text
  | '.' :: s => some s
  | '%' :: '2' :: 'e' :: s => some s
  | '%' :: '2' :: 'E' :: s => some s
  | _ => none

def isDot (s : Text) : Bool := dot? s == some []

def isDoubleDot (s : Text) : Bool := (dot? s).bind dot? == some []

def isDrive : Text → Bool
  | [c, ':'] => c.isAlpha
  | _ => false

def isDriveLetter : Text → Bool
  | [c, d] => c.isAlpha && (d == ':' || d == '|')
  | _ => false

/-- What is written like a drive, up to a backslash, has no parent in paths of any scheme. -/
def isFixed : Text → Bool
  | c :: d :: s => isDriveLetter [c, d] && (s.isEmpty || s.head? == some '\\')
  | _ => false

def parent : List Text → List Text
  | [] => []
  | s :: ss => if isFixed s then s :: ss else ss

/-- Adds segments to a path, which is given last segment first. Dot segments at the end leave a
slash. -/
def resolve (path : List Text) : List Text → List Text
  | [] => path.reverse
  | s :: ss =>
    let last (path : List Text) : List Text := if ss.isEmpty then [] :: path else path
    if isDoubleDot s then resolve (last (parent path)) ss
    else if isDot s then resolve (last path) ss
    else resolve (s :: path) ss

def segmentsOf (f : Family) (s : Text) : List Text :=
  (Text.pieces f.isSlash s).map (percentEncode escapedInPath)

def dropSlash (f : Family) : Text → Text
  | [] => []
  | c :: s => if f.isSlash c then s else c :: s

def isBreak (c : Char) : Bool := c == '\t' || c == '\n' || c == '\r'

def unbroken (s : Text) : Text := s.filter (!isBreak ·)

def isBrokenDrive (s : Text) : Bool :=
  isDrive ((unbroken s).take 2) && 2 < (unbroken s).length &&
    (s.dropWhile (· != ':')).tail.head?.any isBreak

/-- Adds segments to a file path, and finds out whether it begins with a drive. A drive is written
with a colon. If a break and text follow it, that text is a segment, whatever its dots. -/
def resolveFile (path : List Text) (drive : Bool) : List Text → List Text × Bool
  | [] => (path.reverse, drive)
  | s :: ss =>
    let segment := percentEncode escapedInPath (unbroken s)
    let last (path : List Text) : List Text := if ss.isEmpty then [] :: path else path
    if isDoubleDot segment then resolveFile (last (parent path)) drive ss
    else if isDot segment then resolveFile (last path) drive ss
    else if !path.isEmpty then resolveFile (segment :: path) drive ss
    else if isDriveLetter segment then resolveFile [segment.take 1 ++ [':']] true ss
    else if isBrokenDrive s then resolveFile [segment.drop 2, segment.take 2] drive ss
    else resolveFile [segment] drive ss

def dropEmptyFront : List Text → List Text
  | [] :: s :: ss => dropEmptyFront (s :: ss)
  | ss => ss

def fileSegments (s : Text) : List Text × Bool :=
  let (segments, drive) := resolveFile [] false (Text.pieces Family.file.isSlash s)
  (dropEmptyFront segments, drive)

end Descramble.Url
