import Descramble.Url.Host

namespace Descramble.Url

structure Authority where
  user : Text := []
  password : Text := []
  host : Host
  port : Option Nat := none
  deriving DecidableEq

/-- A path without a leading slash has no segments. -/
inductive Path
  | plain (s : Text)
  | rooted (segments : List Text)
  deriving DecidableEq

/-- A parsed address. Its parts hold escapes where they need them. -/
structure Address where
  scheme : Text
  authority : Option Authority
  path : Path
  query : Option Text := none
  fragment : Option Text := none
  deriving DecidableEq

def Authority.credentials (a : Authority) : Text :=
  if a.user.isEmpty && a.password.isEmpty then []
  else a.user ++ (if a.password.isEmpty then [] else ':' :: a.password) ++ ['@']

def Authority.text (a : Authority) : Text :=
  a.credentials ++ a.host.text ++
    match a.port with
    | some port => ':' :: Text.decimal port
    | none => []

def Path.text : Path → Text
  | .plain s => s
  | .rooted segments => segments.flatMap ('/' :: ·)

/-- Two slashes at the front of a path would be read as the start of an authority. -/
def Path.guarded (p : Path) : Text :=
  match p with
  | .rooted ([] :: s :: segments) => ['/', '.'] ++ Path.text (.rooted ([] :: s :: segments))
  | p => p.text

namespace Address

def front (u : Address) : Text :=
  u.scheme ++ ':' ::
    match u.authority with
    | some a => ['/', '/'] ++ a.text ++ u.path.text
    | none => u.path.guarded

def queryText (u : Address) : Text :=
  match u.query with
  | some q => '?' :: q
  | none => []

def fragmentText (u : Address) : Text :=
  match u.fragment with
  | some f => '#' :: f
  | none => []

def text (u : Address) : Text := u.front ++ u.queryText ++ u.fragmentText

/-- Whether other addresses can be given relative to this one. -/
def hasSegments (u : Address) : Bool :=
  match u.path with
  | .plain _ => false
  | .rooted _ => true

end Address
end Descramble.Url
