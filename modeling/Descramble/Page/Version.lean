import Descramble.Fault
import Descramble.Log
import Descramble.Text.Search

namespace Descramble.Page

def upToOnLine? (stop : Text) : Text → Option Text
  | [] => if stop.isEmpty then some [] else none
  | c :: s =>
    if stop.isPrefixOf (c :: s) then some []
    else if c = '\n' then none
    else (upToOnLine? stop s).map (c :: ·)

def scriptTag : Text := "<script".toList

/-- The version inside the path of a script tag of the older layout. -/
def taggedVersionAt? (s : Text) : Option Text := do
  let s ← scriptTag.isPrefixOf? s
  let s ← "src=\"/yts/jsbin/player-".toList.isPrefixOf? (Text.skipBlank s)
  upToOnLine? "/base.js".toList s

def isVersionChar (c : Char) : Bool := c.isAlphanum || c == '_' || c == '-'

/-- The version inside a player path of the newer layout. -/
def pathVersionAt? (s : Text) : Option Text := do
  let s ← "/s/player/".toList.isPrefixOf? s
  let _ ← Text.char? '/' (s.dropWhile isVersionChar)
  let version := s.takeWhile isVersionChar
  if version.isEmpty then none else some version

/-- The player version that a watch page names. A blank one of the older layout does not count. -/
def version (html : Text) : Except Fault Text :=
  match Text.leftmost taggedVersionAt? html with
  | some v => if (Text.skipBlank v).isEmpty then newer else .ok v
  | none => newer
where
  newer : Except Fault Text :=
    match Text.leftmost pathVersionAt? html with
    | some v => .ok v
    | none => .error .versionNotFound

def layout (html : Text) : Nat :=
  if (Text.leftmost taggedVersionAt? html).any fun v => !(Text.skipBlank v).isEmpty then 1 else 2

def findVersion (html : Text) : Logged Fault Text := do
  let v ← version html
  .tell .debug ("Found player version with pattern ".toList ++ Text.decimal (layout html) ++
    ": ".toList ++ v)
  return v

end Descramble.Page
