import Mathlib.Data.List.Basic
import Mathlib.Data.List.Nodup
import Descramble.Script.Classify

namespace Descramble.Script.Bindings

/-- Under a key that no two items share, a look-up finds exactly the items of the list. -/
theorem find?_key_eq_some_iff [BEq κ] [LawfulBEq κ] {key : α → κ} {items : List α}
    (hn : (items.map key).Nodup) :
    (items.find? fun e => key e == k) = some e ↔ e ∈ items ∧ key e = k := by
  constructor
  · intro h
    exact ⟨List.mem_of_find?_eq_some h, by simpa using List.find?_some h⟩
  · rintro ⟨he, rfl⟩
    have found : (items.find? fun d => key d == key e).isSome = true := by
      rw [List.find?_isSome]
      exact ⟨e, he, by simp⟩
    obtain ⟨d, hd⟩ := Option.isSome_iff_exists.mp found
    have same : key d = key e := by simpa using List.find?_some hd
    rw [hd, List.inj_on_of_nodup_map hn (List.mem_of_find?_eq_some hd) he same]

/-- No name and no kind is bound twice. -/
structure OneToOne (b : Bindings) : Prop where
  names : (b.entries.map Prod.fst).Nodup
  kinds : (b.entries.map Prod.snd).Nodup

theorem mem_insert {b : Bindings} : (other, k) ∈ (b.insert name kind).entries ↔
    other = name ∧ k = kind ∨ (other, k) ∈ b.entries ∧ other ≠ name := by
  simp [insert]

theorem has_iff {b : Bindings} : b.has kind = true ↔ ∃ name, (name, kind) ∈ b.entries := by
  simp [has, nameOf?]

namespace OneToOne

variable {b b' : Bindings}

theorem empty : OneToOne {} := ⟨by simp, by simp⟩

/-- No binding hides another one of the same name. -/
theorem kindOf?_eq_some_iff (hb : b.OneToOne) :
    b.kindOf? name = some kind ↔ (name, kind) ∈ b.entries := by
  rw [kindOf?, Option.map_eq_some_iff]
  constructor
  · rintro ⟨⟨n, k⟩, he, rfl⟩
    obtain ⟨hm, rfl⟩ := (find?_key_eq_some_iff hb.names).mp he
    exact hm
  · intro hm
    exact ⟨(name, kind), (find?_key_eq_some_iff hb.names).mpr ⟨hm, rfl⟩, rfl⟩

/-- No binding hides another one of the same kind. -/
theorem nameOf?_eq_some_iff (hb : b.OneToOne) :
    b.nameOf? kind = some name ↔ (name, kind) ∈ b.entries := by
  rw [nameOf?, Option.map_eq_some_iff]
  constructor
  · rintro ⟨⟨n, k⟩, he, rfl⟩
    obtain ⟨hm, rfl⟩ := (find?_key_eq_some_iff hb.kinds).mp he
    exact hm
  · intro hm
    exact ⟨(name, kind), (find?_key_eq_some_iff hb.kinds).mpr ⟨hm, rfl⟩, rfl⟩

theorem insert (hb : b.OneToOne) (free : b.has kind = false) (name : Text) :
    (b.insert name kind).OneToOne := by
  have sub : (b.entries.filter fun e => e.1 != name).Sublist b.entries := List.filter_sublist
  constructor
  · simp only [Bindings.insert, List.map_cons, List.nodup_cons]
    refine ⟨?_, (sub.map Prod.fst).nodup hb.names⟩
    intro hm
    obtain ⟨e, he, hn⟩ := List.mem_map.mp hm
    simp [hn] at he
  · simp only [Bindings.insert, List.map_cons, List.nodup_cons]
    refine ⟨?_, (sub.map Prod.snd).nodup hb.kinds⟩
    intro hm
    obtain ⟨⟨other, k⟩, he, rfl⟩ := List.mem_map.mp hm
    have taken := has_iff.mpr ⟨other, sub.subset he⟩
    rw [free] at taken
    contradiction

theorem bind (hb : b.OneToOne) (name : Text) (kind : Kind) : (b.bind name kind).OneToOne := by
  unfold Bindings.bind
  split
  · exact hb
  · next h => exact hb.insert (by simpa using h) name

theorem names_eq (hb : b.OneToOne) (h : b.kindOf? name = some kind)
    (h' : b.kindOf? name' = some kind) : name = name' := by
  rw [hb.kindOf?_eq_some_iff, ← hb.nameOf?_eq_some_iff] at h h'
  exact Option.some.inj (h.symm.trans h')

/-- A look-up by kind does not depend on the order in which the entries are visited. -/
theorem nameOf?_perm (hb : b.OneToOne) (perm : b'.entries.Perm b.entries) (kind : Kind) :
    b'.nameOf? kind = b.nameOf? kind := by
  have one : b'.OneToOne :=
    ⟨(perm.map Prod.fst).nodup_iff.mpr hb.names, (perm.map Prod.snd).nodup_iff.mpr hb.kinds⟩
  apply Option.ext
  intro name
  rw [one.nameOf?_eq_some_iff, hb.nameOf?_eq_some_iff]
  exact perm.mem_iff

/-- There are as many entries as kinds that have a name. -/
theorem size_eq (hb : b.OneToOne) : b.size = Kind.all.countP b.has := by
  have kinds : (b.entries.map Prod.snd).Perm (Kind.all.filter b.has) := by
    rw [List.perm_ext_iff_of_nodup hb.kinds (Kind.nodup_all.filter _)]
    intro kind
    rw [List.mem_filter, has_iff, List.mem_map]
    constructor
    · intro h
      obtain ⟨⟨name, _⟩, he, rfl⟩ := h
      exact ⟨Kind.mem_all _, name, he⟩
    · intro h
      obtain ⟨-, name, he⟩ := h
      exact ⟨(name, kind), he, rfl⟩
  rw [List.countP_eq_length_filter, ← kinds.length_eq, List.length_map, size]

theorem size_le (hb : b.OneToOne) : b.size ≤ 3 := by
  rw [hb.size_eq]
  exact List.countP_le_length

end OneToOne

theorem covers_iff {b : Bindings} :
    b.covers kinds = true ↔ ∀ kind ∈ kinds, ∃ name, b.nameOf? kind = some name := by
  simp only [covers, List.all_eq_true, has, Option.isSome_iff_exists]

/-- The name has the kind afterwards, the kind it had is free, and every other name has the kind
it had. -/
structure Moves (b : Bindings) (name : Text) (kind : Kind) (b' : Bindings) : Prop where
  bound : b'.kindOf? name = some kind
  freed : ∀ former, b.kindOf? name = some former → b'.nameOf? former = none
  kept : ∀ other, other ≠ name → b'.kindOf? other = b.kindOf? other

/-- An insertion moves its own name and no other. -/
theorem OneToOne.moves_insert {b : Bindings} (hb : b.OneToOne) (free : b.has kind = false)
    (name : Text) : Moves b name kind (b.insert name kind) := by
  refine ⟨by simp [kindOf?_insert], ?_, ?_⟩
  · intro former had
    rw [hb.kindOf?_eq_some_iff] at had
    by_contra taken
    obtain ⟨holder, taken⟩ := Option.ne_none_iff_exists'.mp taken
    rw [(hb.insert free name).nameOf?_eq_some_iff, mem_insert] at taken
    rcases taken with ⟨-, rfl⟩ | ⟨holds, other⟩
    · have bound := has_iff.mpr ⟨name, had⟩
      rw [free] at bound
      contradiction
    · rw [← hb.nameOf?_eq_some_iff] at had holds
      exact other (Option.some.inj (holds.symm.trans had))
  · intro other hne
    rw [kindOf?_insert, if_neg (Ne.symm hne)]

/-- A kind that is taken stays with its name, also if that is the name it is to be given to. -/
theorem not_moves_of_has {b : Bindings} (taken : b.has kind = true) (name : Text) :
    ¬ Moves b name kind b := by
  intro moves
  have free := moves.freed kind moves.bound
  rw [has, free] at taken
  contradiction

/-- A name is refused exactly if its kind is taken, and a refusal changes nothing. -/
theorem OneToOne.tryBind_iff {b : Bindings} (hb : b.OneToOne) (name : Text) (kind : Kind) :
    ((b.tryBind name kind).1 = false ↔ b.has kind = true) ∧
    ((b.tryBind name kind).1 = false → (b.tryBind name kind).2 = b) ∧
    ((b.tryBind name kind).1 = true ↔ Moves b name kind (b.tryBind name kind).2) := by
  cases taken : b.has kind with
  | true => simp [tryBind, taken, not_moves_of_has taken]
  | false => simp [tryBind, taken, hb.moves_insert taken]

/-- The bindings behind a series of bindings, each of which may be refused. -/
def run (b : Bindings) (ops : List (Text × Kind)) : Bindings :=
  ops.foldl (fun b op => (b.tryBind op.1 op.2).2) b

theorem OneToOne.run {b : Bindings} (hb : b.OneToOne) (ops : List (Text × Kind)) :
    (b.run ops).OneToOne := by
  induction ops generalizing b with
  | nil => exact hb
  | cons op ops ih =>
    have next : (b.tryBind op.1 op.2).2.OneToOne := by
      rw [tryBind_eq]
      exact hb.bind op.1 op.2
    exact ih next

/-- Once every kind has a name, all further bindings are refused. -/
theorem run_of_covers {b : Bindings} (full : b.covers Kind.all = true)
    (ops : List (Text × Kind)) : b.run ops = b := by
  induction ops with
  | nil => rfl
  | cons op ops ih =>
    have taken : b.has op.2 = true := List.all_eq_true.mp full op.2 (Kind.mem_all op.2)
    rw [run, List.foldl_cons, tryBind_eq, bind_of_has taken]
    exact ih

/-- Whatever was bound and bound again, names and kinds are in one-to-one correspondence, however
the entries are ordered. A binding is refused exactly if its kind is taken, and then changes
nothing; else the name moves to its new kind and nothing else does. -/
theorem run_one_to_one (ops : List (Text × Kind)) :
    let b := run {} ops
    (∀ name name' kind, b.kindOf? name = some kind → b.kindOf? name' = some kind →
      name = name') ∧
    (∀ name kind, b.nameOf? kind = some name ↔ b.kindOf? name = some kind) ∧
    (∀ b' : Bindings, b'.entries.Perm b.entries → ∀ kind, b'.nameOf? kind = b.nameOf? kind) ∧
    (b.size = Kind.all.countP b.has ∧ b.size ≤ 3) ∧
    (∀ kinds, b.covers kinds = true ↔ ∀ kind ∈ kinds, ∃ name, b.nameOf? kind = some name) ∧
    (∀ name kind, let (bound, after) := b.tryBind name kind
      (bound = false ↔ ∃ holder, b.nameOf? kind = some holder) ∧
      (bound = false → after = b) ∧
      (bound = true ↔ Moves b name kind after)) ∧
    (b.covers Kind.all = true → ∀ more, run {} (ops ++ more) = b) := by
  intro b
  have one : b.OneToOne := OneToOne.empty.run ops
  refine ⟨fun _ _ _ => one.names_eq, ?_, fun _ perm => one.nameOf?_perm perm,
    ⟨one.size_eq, one.size_le⟩, fun _ => covers_iff, ?_, ?_⟩
  · intro name kind
    rw [one.nameOf?_eq_some_iff, one.kindOf?_eq_some_iff]
  · intro name kind
    have answers := one.tryBind_iff name kind
    rw [has, Option.isSome_iff_exists] at answers
    exact answers
  · intro full more
    rw [run, List.foldl_append]
    exact run_of_covers full more

end Descramble.Script.Bindings
