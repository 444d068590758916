import Descramble.Duration
import Descramble.Fault

namespace Descramble

structure Limits where
  lifetime : Duration := ⟨600, 0⟩
  capacity : Nat := 16
  deriving DecidableEq

namespace Limits

def longestLifetime : Duration := ⟨1000 * 365 * 24 * 3600, 0⟩

def areAccepted (l : Limits) : Bool :=
  l.lifetime.seconds < longestLifetime.seconds ||
    (l.lifetime.seconds == longestLifetime.seconds && l.lifetime.nanoseconds == 0)

def refusal : Text := "time_to_live is longer than 1000 years".toList

/-- A program that may live for no time, or beside no other, is never kept. -/
def keep (l : Limits) : Bool := !l.lifetime.isZero && l.capacity != 0

end Limits

structure Cache where
  keeps : Bool := true
  entries : List (Text × Program) := []
  deriving DecidableEq

namespace Cache

def ofLimits (l : Limits) : Cache := { keeps := l.keep }

def get? (c : Cache) (version : Text) : Option Program := c.entries.lookup version

def erase (c : Cache) (version : Text) : Cache :=
  { c with entries := c.entries.filter fun e => e.1 != version }

def insert (c : Cache) (version : Text) (p : Program) : Cache :=
  if c.keeps then { c with entries := (version, p) :: (c.erase version).entries } else c

def clear (c : Cache) : Cache := { c with entries := [] }

def size (c : Cache) : Nat := c.entries.length

/-- The program of a version; one that is not there is made, and kept if that succeeds. -/
def getOrInsert (c : Cache) (version : Text) (make : Except Fault Program) :
    Except Fault Program × Cache :=
  match c.get? version with
  | some p => (.ok p, c)
  | none =>
    match make with
    | .ok p => (.ok p, c.insert version p)
    | .error fault => (.error (.shared fault), c)

/-- Only the version that is erased is gone. -/
theorem get?_erase (c : Cache) (version other : Text) :
    (c.erase version).get? other = if version = other then none else c.get? other := by
  unfold get? erase
  induction c.entries with
  | nil => simp
  | cons e entries ih =>
    obtain ⟨name, p⟩ := e
    by_cases hv : name = version
    · subst hv
      by_cases ho : name = other
      · simpa [ho] using ih
      · have : (other == name) = false := by simpa using Ne.symm ho
        simpa [List.lookup_cons, this, ho] using ih
    · by_cases ho : other = name
      · subst ho
        simp [hv, Ne.symm hv]
      · have : (other == name) = false := by simpa using ho
        simpa [List.lookup_cons, this, hv] using ih

/-- An insertion changes the answer for its own version alone. -/
theorem get?_insert (h : Cache.keeps c = true) (version : Text) (p : Program) (other : Text) :
    (c.insert version p).get? other = if version = other then some p else c.get? other := by
  have rest := get?_erase c version other
  unfold get? at rest ⊢
  by_cases ho : version = other
  · simp [insert, h, ho]
  · have : (other == version) = false := by simpa using Ne.symm ho
    simpa [insert, h, List.lookup_cons, this, ho] using rest

end Cache
end Descramble
