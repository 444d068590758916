import Descramble.Page.Version
import Descramble.Url.Parse

namespace Descramble.Page

open Url

def site : Address :=
  ⟨"https".toList, some { host := .name "www.youtube.com".toList }, .rooted [[]],
  none, none⟩

def nonempty? (s : Text) : Option Text := if s.isEmpty then none else some s

def fieldAt? (s : Text) : Option Text := do
  let s ← "\"jsUrl\":\"".toList.isPrefixOf? s
  let (value, _) ← Text.upTo? '"' s
  nonempty? value

def tagAt? (s : Text) : Option Text := do
  let s ← scriptTag.isPrefixOf? s
  let s ← "src=\"".toList.isPrefixOf? (Text.skipBlank s)
  let (value, _) ← Text.upTo? '"' s
  let stem ← "/base.js".toList.isSuffixOf? value
  let _ ← nonempty? stem
  return value

/-- Where the player script of a watch page is, as the page writes it. -/
def source? (html : Text) : Option Text :=
  (Text.leftmost fieldAt? html).or (Text.leftmost tagAt? html)

def scriptAddress (html : Text) : Except Fault Text :=
  match source? html with
  | none => .error .versionNotFound
  | some source =>
    match site.join source with
    | .ok u => .ok u.text
    | .error cause => .error (.badUrl cause)

end Descramble.Page
