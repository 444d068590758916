namespace Descramble

/-- Scripts, names, statements and signatures are sequences of Unicode scalar values. -/
abbrev Text := List Char

namespace Text

def inRanges (table : List (Nat × Nat)) (c : Char) : Bool :=
  table.any fun r => r.1 ≤ c.toNat && c.toNat ≤ r.2

def decimal (n : Nat) : Text := Nat.toDigits 10 n

/-- The pieces between separators; there is always one more piece than separators. -/
def pieces (separates : Char → Bool) : Text → List Text
  | [] => [[]]
  | c :: s =>
    match separates c, pieces separates s with
    | true, ps => [] :: ps
    | false, [] => [[c]]
    | false, p :: ps => (c :: p) :: ps

def join (separator : Text) (ps : List Text) : Text := separator.intercalate ps

def upTo? (stop : Char) : Text → Option (Text × Text)
  | [] => none
  | c :: s => if c = stop then some ([], s) else (upTo? stop s).map fun r => (c :: r.1, r.2)

def splitLast? (stop : Char) (s : Text) : Option (Text × Text) :=
  (upTo? stop s.reverse).map fun p => (p.2.reverse, p.1.reverse)

def through? (stop : Char) : Text → Option Text
  | [] => none
  | c :: s => if c = stop then some [c] else (through? stop s).map (c :: ·)

theorem pieces_ne_nil (separates : Char → Bool) (s : Text) : pieces separates s ≠ [] := by
  cases s with
  | nil => simp [pieces]
  | cons c s =>
    simp only [pieces]
    split <;> simp

theorem upTo?_eq_some (h : upTo? stop s = some (before, behind)) :
    s = before ++ stop :: behind ∧ stop ∉ before := by
  induction s generalizing before with
  | nil => simp [upTo?] at h
  | cons c s ih =>
    simp only [upTo?] at h
    split at h
    · next hc =>
      simp only [Option.some.injEq, Prod.mk.injEq] at h
      obtain ⟨rfl, rfl⟩ := h
      simp [hc]
    · next hc =>
      obtain ⟨⟨b, r⟩, hr, he⟩ := Option.map_eq_some_iff.mp h
      simp only [Prod.mk.injEq] at he
      obtain ⟨rfl, rfl⟩ := he
      obtain ⟨rfl, hn⟩ := ih hr
      exact ⟨rfl, by simp [hn, Ne.symm hc]⟩

theorem upTo?_append (h : stop ∉ before) :
    upTo? stop (before ++ stop :: behind) = some (before, behind) := by
  induction before with
  | nil => simp [upTo?]
  | cons c before ih =>
    simp only [List.mem_cons, not_or] at h
    simp [upTo?, Ne.symm h.1, ih h.2]

theorem through?_eq_upTo? (stop : Char) (s : Text) :
    through? stop s = (upTo? stop s).map fun r => r.1 ++ [stop] := by
  induction s with
  | nil => rfl
  | cons c s ih =>
    simp only [through?, upTo?]
    split
    · next h => simp [h]
    · simp [ih, Function.comp_def]

theorem through?_eq_some_iff : through? stop s = some b ↔
    ∃ u behind, s = u ++ stop :: behind ∧ stop ∉ u ∧ b = u ++ [stop] := by
  rw [through?_eq_upTo?, Option.map_eq_some_iff]
  constructor
  · intro found
    obtain ⟨⟨u, behind⟩, cut, rfl⟩ := found
    obtain ⟨split, outside⟩ := upTo?_eq_some cut
    exact ⟨u, behind, split, outside, rfl⟩
  · intro written
    obtain ⟨u, behind, rfl, outside, rfl⟩ := written
    exact ⟨(u, behind), upTo?_append outside, rfl⟩

end Text
end Descramble
