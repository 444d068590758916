import Descramble.Proofs.Json.Printing

namespace Descramble

open Json

inductive WrittenMember (key : Text) (value : Text → Prop) : Text → Prop
  | member (before behind : Space) (spelled : Spelled key k) (content : value w) :
    WrittenMember key value (memberText k before behind w)

variable {depth : Nat} {s t w rest key k : Text} {value : Text → Prop}

theorem Json.stringOf_written (expected : Text) (h : Written depth (.string k) t)
    (front : skipSpace s = t ++ rest) : stringOf expected s = .ok (k, rest) := by
  cases h with
  | string content =>
    rw [List.cons_append, List.append_assoc] at front
    rw [stringOf]
    simp only [front]
    exact string_spelled content rest

namespace WrittenMember

theorem exists_cons (h : WrittenMember key value t) : ∃ r, t = '"' :: r := by
  cases h with
  | member before behind spelled content => exact ⟨_, rfl⟩

theorem nextKey_first (h : WrittenMember key value t) (gap : Space) (s : Text) :
    nextKey true (gap.text ++ (t ++ s)) = nextKey true (t ++ s) := by
  obtain ⟨r, rfl⟩ := h.exists_cons
  rw [List.cons_append, Json.nextKey_first (gap.skipSpace_append rfl _), Json.nextKey_first rfl]

theorem nextKey_next (h : WrittenMember key value t) (gap gap' : Space) (s : Text) :
    nextKey false (gap.text ++ ',' :: (gap'.text ++ (t ++ s))) = nextKey true (t ++ s) := by
  obtain ⟨r, rfl⟩ := h.exists_cons
  rw [List.cons_append, Json.nextKey_first rfl]
  exact Json.nextKey_next (gap.skipSpace_append rfl _) (gap'.skipSpace_append rfl _)

/-- The compact text of a member is one way to write it. -/
theorem compact (content : value w) : WrittenMember key value (stringText key ++ ':' :: w) := by
  simpa [stringText, memberText, Text.Run.nothing] using
    WrittenMember.member .nothing .nothing (spelled_escaped key) content

end WrittenMember

end Descramble
