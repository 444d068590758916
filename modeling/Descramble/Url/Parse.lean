import Descramble.Url.Basic
import Descramble.Url.Segments

namespace Descramble.Url

def trimmed (s : Text) : Text :=
  let isMargin : Char → Bool := fun c => c ≤ ' '
  ((s.dropWhile isMargin).reverse.dropWhile isMargin).reverse

/-- The text before the first character that `stops` names, and the rest from it on. -/
def cutAt (stops : Char → Bool) (s : Text) : Text × Text :=
  (s.takeWhile (!stops ·), s.dropWhile (!stops ·))

/-- The host's text ends at a colon outside brackets. -/
def hostSpan (f : Family) (inBrackets : Bool) : Text → Text × Text
  | [] => ([], [])
  | c :: s =>
    if f.endsAuthority c || (c == ':' && !inBrackets) then ([], c :: s)
    else
      let inBrackets := c == '[' || (inBrackets && c != ']')
      let (host, rest) := hostSpan f inBrackets s
      (c :: host, rest)

def hostOf (f : Family) (s : Text) : Except Fault Host :=
  match f with
  | .other => Host.ofOpaque s
  | _ => if s.isEmpty then .error .emptyHost else Host.ofDomain s

def portOf (scheme s : Text) : Except Fault (Option Nat × Text) :=
  let (digits, rest) := cutAt (!·.isDigit) s
  let port := digits.foldl (fun n c => 10 * n + (c.toNat - 48)) 0
  if 65535 < port then .error .invalidPort
  else
    match rest with
    | [] => .ok (known port digits, [])
    | c :: r =>
      if c = '/' ∨ c = '\\' ∨ c = '?' ∨ c = '#' then .ok (known port digits, c :: r)
      else .error .invalidPort
where
  known (port : Nat) (digits : Text) : Option Nat :=
    if digits.isEmpty ∨ defaultPort? scheme = some port then none else some port

def credentialsOf (s : Text) : Text × Text :=
  match Text.upTo? ':' s with
  | some (user, password) =>
    (percentEncode escapedInCredentials user, percentEncode escapedInCredentials password)
  | none => (percentEncode escapedInCredentials s, [])

def authorityOf (scheme s : Text) : Except Fault (Authority × Text) := do
  let f := familyOf scheme
  let (part, rest) := cutAt f.endsAuthority s
  let (credentials, hostPart) := (Text.splitLast? '@' part).getD ([], part)
  let (user, password) := credentialsOf credentials
  if part == ['@'] && !rest.isEmpty then throw .emptyHost
  let (hostText, rest) := hostSpan f false (hostPart ++ rest)
  let host ← hostOf f hostText
  let (port, rest) ←
    match rest with
    | ':' :: r => if host.isEmpty then throw .emptyHost else portOf scheme r
    | r => pure (none, r)
  if host.isEmpty && !(user.isEmpty && password.isEmpty) then throw .emptyHost
  return (⟨user, password, host, port⟩, rest)

structure Tail where
  path : Text
  query : Option Text
  fragment : Option Text

def Tail.ofText (f : Family) (s : Text) : Tail :=
  let (front, fragment) := cutAt (· == '#') s
  let (path, query) := cutAt (· == '?') front
  let encoded (escapes : Char → Bool) : Text → Option Text
    | [] => none
    | _ :: r => some (percentEncode escapes r)
  ⟨path, encoded (escapedInQuery f.isSpecial) query, encoded escapedInFragment fragment⟩

def withAuthority (scheme s : Text) : Except Fault Address := do
  let f := familyOf scheme
  let (authority, rest) ← authorityOf scheme s
  let tail := Tail.ofText f rest
  let segments :=
    if f = .other ∧ tail.path.isEmpty then []
    else resolve [] (segmentsOf f (dropSlash f tail.path))
  return ⟨scheme, some authority, .rooted segments, tail.query, tail.fragment⟩

def ofOther (scheme s : Text) : Except Fault Address :=
  match s with
  | '/' :: '/' :: r => withAuthority scheme r
  | s =>
    let tail := Tail.ofText .other s
    let path : Path :=
      match tail.path with
      | '/' :: p => .rooted (resolve [] (segmentsOf .other p))
      | p => .plain (percentEncode isUnprintable p)
    .ok ⟨scheme, none, path, tail.query, tail.fragment⟩

def fileAddress (host : Host) (s : Text) : Address :=
  let tail := Tail.ofText .file (unbroken s)
  let (segments, drive) := fileSegments (s.takeWhile fun c => c != '?' && c != '#')
  let host := if drive then .name [] else host
  ⟨"file".toList, some { host }, .rooted segments, tail.query, tail.fragment⟩

def behindSlash? (s : Text) : Option Text :=
  match s.dropWhile isBreak with
  | [] => none
  | c :: r => if Family.file.isSlash c then some r else none

/-- A file address, read behind two slashes. The local host is no host, and a drive is never one.
Without a host, the slash before the path is the path's own. -/
def ofFileHost (s : Text) : Except Fault Address := do
  let (front, rest) := cutAt Family.file.endsAuthority s
  let name := unbroken front
  if isDriveLetter name then return fileAddress (.name []) s
  else if name.isEmpty then return fileAddress (.name []) rest
  else
    let host ← Host.ofDomain name
    if host = .name "localhost".toList then return fileAddress (.name []) rest
    else return fileAddress host (dropSlash .file rest)

def ofFile (s : Text) : Except Fault Address :=
  match behindSlash? s with
  | none => .ok (fileAddress (.name []) s)
  | some r =>
    match behindSlash? r with
    | none => .ok (fileAddress (.name []) r)
    | some t => ofFileHost t

def dropSlashes (s : Text) : Text := s.dropWhile Family.special.isSlash

/-- The address of a scheme, read behind the colon. Breaks only matter to drives. -/
def ofScheme (scheme s : Text) : Except Fault Address :=
  match familyOf scheme with
  | .file => ofFile s
  | .special => withAuthority scheme (dropSlashes (unbroken s))
  | .other => ofOther scheme (unbroken s)

def behindColon (s : Text) : Text := (s.dropWhile (· != ':')).tail

def Address.parse (s : Text) : Except Fault Address :=
  match scheme? (unbroken (trimmed s)) with
  | some (scheme, _) => ofScheme scheme (behindColon (trimmed s))
  | none => .error .relativeWithoutBase

namespace Address

def segments (u : Address) : List Text :=
  match u.path with
  | .plain _ => []
  | .rooted segments => segments

def relative (base : Address) (s : Text) : Except Fault Address :=
  let f := Family.special
  match s with
  | [] => .ok { base with fragment := none }
  | c :: r =>
    if c = '?' ∨ c = '#' then
      let tail := Tail.ofText f s
      .ok { base with
        query := if c = '?' then tail.query else base.query
        fragment := tail.fragment }
    else if f.isSlash c then
      match r with
      | [] => .ok (onPath [] r)
      | d :: t =>
        if f.isSlash d then
          withAuthority base.scheme (if c = '/' ∧ d = '/' then t else dropSlashes s)
        else .ok (onPath [] r)
    else .ok (onPath base.segments.dropLast.reverse s)
where
  /-- The path that `s` adds to the given one, which has its last segment first. -/
  onPath (path : List Text) (s : Text) : Address :=
    let tail := Tail.ofText .special s
    { base with
      path := .rooted (resolve path (segmentsOf .special tail.path))
      query := tail.query
      fragment := tail.fragment }

def join (base : Address) (text : Text) : Except Fault Address :=
  let s := unbroken (trimmed text)
  match scheme? s with
  | none => base.relative s
  | some (scheme, r) =>
    if scheme = base.scheme ∧ (r.takeWhile Family.special.isSlash).length < 2 then base.relative r
    else ofScheme scheme (behindColon (trimmed text))

end Address
end Descramble.Url
