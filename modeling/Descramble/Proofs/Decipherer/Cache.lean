import Descramble.Cache

namespace Descramble.Cache

def versions (c : Cache) : List Text := c.entries.map Prod.fst

theorem mem_insert {c : Cache} (h : e ∈ (c.insert version p).entries) :
    e ∈ c.entries ∨ e = (version, p) := by
  unfold insert at h
  split at h
  · rcases List.mem_cons.mp h with rfl | kept
    · exact .inr rfl
    · exact .inl (List.mem_filter.mp kept).1
  · exact .inl h

/-- Nothing is stored but a program that was made for the version. -/
theorem mem_getOrInsert {c : Cache} (h : e ∈ (c.getOrInsert version make).2.entries) :
    e ∈ c.entries ∨ version = e.1 ∧ make = .ok e.2 := by
  unfold getOrInsert at h
  split at h
  · exact .inl h
  · split at h
    · next p made =>
      rcases mem_insert h with kept | rfl
      · exact .inl kept
      · exact .inr ⟨rfl, rfl⟩
    · exact .inl h

theorem mem_of_get? {c : Cache} (h : c.get? version = some p) : (version, p) ∈ c.entries := by
  obtain ⟨before, behind, split, -⟩ := List.lookup_eq_some_iff.mp h
  rw [split]
  exact List.mem_append_right before List.mem_cons_self

/-- A program that is kept is not made again, and no other version is touched. -/
theorem get?_getOrInsert {c : Cache} (h : c.keeps = true) (version other : Text)
    (make : Except Fault Program) :
    (c.getOrInsert version make).2.get? other =
      if version = other then (c.get? version).or make.toOption else c.get? other := by
  unfold getOrInsert
  cases hit : c.get? version with
  | some p =>
    by_cases same : version = other
    · subst same
      simp [hit]
    · simp [same]
  | none =>
    cases make with
    | error fault =>
      by_cases same : version = other
      · subst same
        simp [hit, Except.toOption]
      · simp [same]
    | ok p => simp [get?_insert h, Except.toOption]

/-- What cannot be made is not kept. -/
theorem getOrInsert_failed {c : Cache} (miss : c.get? version = none) (fault : Fault) :
    (c.getOrInsert version (.error fault)).2 = c := by
  simp [getOrInsert, miss]

theorem keeps_getOrInsert (c : Cache) (version : Text) (make : Except Fault Program) :
    (c.getOrInsert version make).2.keeps = c.keeps := by
  unfold getOrInsert insert
  split
  · rfl
  · split
    · split <;> rfl
    · rfl

theorem nodup_erase {c : Cache} (h : c.versions.Nodup) (version : Text) :
    (c.erase version).versions.Nodup :=
  (List.filter_sublist.map Prod.fst).nodup h

/-- An insertion takes the place of what was kept of the version. -/
theorem nodup_insert {c : Cache} (h : c.versions.Nodup) (version : Text) (p : Program) :
    (c.insert version p).versions.Nodup := by
  unfold insert
  split
  · refine List.nodup_cons.mpr ⟨?_, nodup_erase h version⟩
    intro hm
    obtain ⟨e, he, rfl⟩ := List.mem_map.mp hm
    simp [erase] at he
  · exact h

theorem nodup_getOrInsert {c : Cache} (h : c.versions.Nodup) (version : Text)
    (make : Except Fault Program) : (c.getOrInsert version make).2.versions.Nodup := by
  unfold getOrInsert
  split
  · exact h
  · split
    · next p => exact nodup_insert h version p
    · exact h

theorem mem_versions {c : Cache} : version ∈ c.versions ↔ (c.get? version).isSome = true := by
  rw [versions, get?, List.lookup_isSome_iff, List.mem_map]
  constructor
  · rintro ⟨e, he, rfl⟩
    exact ⟨e, he, by simp⟩
  · rintro ⟨e, he, same⟩
    exact ⟨e, he, (beq_iff_eq.mp same).symm⟩

end Descramble.Cache
