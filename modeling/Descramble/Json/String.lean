import Descramble.Json.Reader

namespace Descramble.Json

def hexValue? (c : Char) : Option Nat :=
  if '0' ≤ c ∧ c ≤ '9' then some (c.toNat - 48)
  else if 'a' ≤ c ∧ c ≤ 'f' then some (c.toNat - 87)
  else if 'A' ≤ c ∧ c ≤ 'F' then some (c.toNat - 55)
  else none

def hexNumber? (digits : Text) : Option Nat :=
  digits.foldlM (fun n c => (hexValue? c).map (16 * n + ·)) 0

/-- The four hexadecimal digits of an escape. Four bytes are taken whatever they hold. -/
def hexDigits (s : Text) : Read Nat :=
  if byteCount (s.take 4) < 4 then .error (.placed .unfinishedString 0)
  else
    match hexNumber? (s.take 4) with
    | some n => .ok (n, s.drop 4)
    | none => .error (.placed .invalidEscape (byteCount s - 4))

def isLeading (n : Nat) : Bool := 0xD800 ≤ n && n ≤ 0xDBFF

def isTrailing (n : Nat) : Bool := 0xDC00 ≤ n && n ≤ 0xDFFF

def pair (leading trailing : Nat) : Nat :=
  (leading - 0xD800) * 1024 + (trailing - 0xDC00) + 0x10000

def trailingEscape (leading : Nat) (s : Text) : Except Halt (Char × Text) :=
  match s with
  | [] => .error (.placed .unfinishedString 0)
  | ['\\'] => .error (.placed .unfinishedString 0)
  | '\\' :: 'u' :: r => do
    let (n, r) ← hexDigits r
    if isTrailing n then .ok (Char.ofNat (pair leading n), r) else .error (.here .loneSurrogate r)
  | '\\' :: r => .error (.past .unfinishedSurrogate r)
  | r => .error (.past .unfinishedSurrogate r)

def unicodeEscape (s : Text) : Except Halt (Char × Text) := do
  let (n, r) ← hexDigits s
  if isTrailing n then .error (.here .loneSurrogate r)
  else if isLeading n then trailingEscape n r
  else .ok (Char.ofNat n, r)

def shortEscapes : List (Char × Char) :=
  [('"', '"'), ('\\', '\\'), ('/', '/'), ('b', '\x08'), ('f', '\x0c'), ('n', '\n'), ('r', '\r'),
   ('t', '\t')]

def escape : Text → Read Char
  | [] => .error (.placed .unfinishedString 0)
  | c :: r =>
    if c = 'u' then unicodeEscape r
    else
      match shortEscapes.lookup c with
      | some d => .ok (d, r)
      | none => .error (.past .invalidEscape (c :: r))

theorem hexDigits_lt (h : hexDigits s = .ok (n, r)) : r.length < s.length := by
  unfold hexDigits at h
  split at h
  · cases h
  · next bytes =>
    split at h
    · simp only [Except.ok.injEq, Prod.mk.injEq] at h
      rw [← h.2, List.length_drop]
      cases s with
      | nil => simp [byteCount] at bytes
      | cons c s => simp only [List.length_cons]; omega
    · cases h

theorem trailingEscape_lt (h : trailingEscape n s = .ok (c, r)) : r.length < s.length := by
  unfold trailingEscape at h
  split at h
  · cases h
  · cases h
  · next t =>
    cases hd : hexDigits t with
    | error e => simp [hd, bind, Except.bind] at h
    | ok p =>
      have := hexDigits_lt hd
      simp only [hd, bind, Except.bind] at h
      split at h
      · simp only [Except.ok.injEq, Prod.mk.injEq] at h
        rw [← h.2]
        simp only [List.length_cons]
        omega
      · cases h
  · cases h
  · cases h

theorem escape_lt (h : escape s = .ok (c, r)) : r.length < s.length := by
  unfold escape at h
  split at h
  · cases h
  · next d t =>
    split at h
    · unfold unicodeEscape at h
      cases hd : hexDigits t with
      | error e => simp [hd, bind, Except.bind] at h
      | ok p =>
        have := hexDigits_lt hd
        simp only [hd, bind, Except.bind] at h
        split at h
        · cases h
        · split at h
          · have := trailingEscape_lt h
            simp only [List.length_cons]
            omega
          · simp only [Except.ok.injEq, Prod.mk.injEq] at h
            rw [← h.2]
            simp only [List.length_cons]
            omega
    · split at h
      · simp only [Except.ok.injEq, Prod.mk.injEq] at h
        simp [← h.2]
      · cases h

def string (s : Text) : Read Text :=
  match s with
  | [] => .error (.placed .unfinishedString 0)
  | c :: r =>
    if c = '"' then .ok ([], r)
    else if c = '\\' then
      match _read : escape r with
      | .error halt => .error halt
      | .ok (d, t) => (string t).map fun u => (d :: u.1, u.2)
    else if c.toNat < 32 then .error (.past .controlCharacter (c :: r))
    else (string r).map fun u => (c :: u.1, u.2)
termination_by s.length
decreasing_by
  · have := escape_lt _read
    simp only [List.length_cons]
    omega
  · simp

def skipEscape : Text → Except Halt Text
  | [] => .error (.placed .unfinishedString 0)
  | c :: r =>
    if c = 'u' then (hexDigits r).map Prod.snd
    else if (shortEscapes.lookup c).isSome then .ok r
    else .error (.past .invalidEscape (c :: r))

theorem skipEscape_lt (h : skipEscape s = .ok r) : r.length < s.length := by
  unfold skipEscape at h
  split at h
  · cases h
  · next d t =>
    split at h
    · cases hd : hexDigits t with
      | error e => simp [hd, Except.map] at h
      | ok p =>
        have := hexDigits_lt hd
        simp only [hd, Except.map, Except.ok.injEq] at h
        rw [← h]
        simp only [List.length_cons]
        omega
    · split at h
      · simp only [Except.ok.injEq] at h
        simp [← h]
      · cases h

def skipString (s : Text) : Except Halt Text :=
  match s with
  | [] => .error (.placed .unfinishedString 0)
  | c :: r =>
    if c = '"' then .ok r
    else if c = '\\' then
      match _read : skipEscape r with
      | .error halt => .error halt
      | .ok t => skipString t
    else if c.toNat < 32 then .error (.here .controlCharacter (c :: r))
    else skipString r
termination_by s.length
decreasing_by
  · have := skipEscape_lt _read
    simp only [List.length_cons]
    omega
  · simp

end Descramble.Json
