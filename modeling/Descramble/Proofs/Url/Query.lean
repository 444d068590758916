import Descramble.Proofs.Url.Form
import Descramble.Proofs.Url.Front

namespace Descramble.Url

/-- The text in front of the first question mark. -/
def beforeQuery (s : Text) : Text := s.takeWhile (· != '?')

/-- The text from the first number sign on. -/
def fromFragment (s : Text) : Text := s.dropWhile (· != '#')

/-- The text between the first question mark and the first number sign. -/
def queryOf (s : Text) : Text := ((s.takeWhile (· != '#')).dropWhile (· != '?')).tail

section

variable {front query : Text} {u : Address}

theorem takeWhile_fragmentText (u : Address) : u.fragmentText.takeWhile (· != '#') = [] := by
  unfold Address.fragmentText
  split <;> rfl

theorem dropWhile_fragmentText (u : Address) :
    u.fragmentText.dropWhile (· != '#') = u.fragmentText := by
  unfold Address.fragmentText
  split <;> rfl

theorem beforeQuery_append (hf : Undivided front) (s : Text) :
    beforeQuery (front ++ '?' :: s) = front := by
  rw [beforeQuery, List.takeWhile_append_of_pos (hf.bne rfl), List.takeWhile_cons_of_neg (by simp),
    List.append_nil]

theorem fromFragment_append (hf : Undivided front) (hq : ∀ c ∈ query, (c != '#') = true) :
    fromFragment (front ++ '?' :: (query ++ u.fragmentText)) = u.fragmentText := by
  rw [fromFragment, List.dropWhile_append_of_pos (hf.bne rfl),
    List.dropWhile_cons_of_pos (by simp), List.dropWhile_append_of_pos hq, dropWhile_fragmentText]

theorem queryOf_append (hf : Undivided front) (hq : ∀ c ∈ query, (c != '#') = true) :
    queryOf (front ++ '?' :: (query ++ u.fragmentText)) = query := by
  have upTo : (front ++ '?' :: (query ++ u.fragmentText)).takeWhile (· != '#') =
      front ++ '?' :: query := by
    rw [List.takeWhile_append_of_pos (hf.bne rfl), List.takeWhile_cons_of_pos (by simp),
      List.takeWhile_append_of_pos hq, takeWhile_fragmentText, List.append_nil]
  rw [queryOf, upTo, List.dropWhile_append_of_pos (hf.bne rfl),
    List.dropWhile_cons_of_neg (by simp), List.tail_cons]

end

theorem Form.ne_fragment_of_mem_text : ∀ c ∈ Form.text fs, (c != '#') = true := by
  intro c hc
  rcases Form.mem_text hc with encoded | rfl | rfl
  · have ne : c ≠ '#' := by
      rintro rfl
      contradiction
    simpa using ne
  · rfl
  · rfl

namespace Address

def withFields (u : Address) (fs : List Field) : Address := { u with query := some (Form.text fs) }

def withoutQuery (u : Address) : Address := { u with query := none }

theorem text_withoutQuery (u : Address) : u.withoutQuery.text = u.front ++ u.fragmentText :=
  congrArg (· ++ u.fragmentText) (List.append_nil u.front)

theorem text_withFields (u : Address) (fs : List Field) :
    (u.withFields fs).text = u.front ++ '?' :: (Form.text fs ++ u.fragmentText) :=
  List.append_assoc _ _ _

variable {u : Address}

theorem beforeQuery_withFields (hu : u.Closed) (fs : List Field) :
    beforeQuery (u.withFields fs).text = u.front := by
  rw [text_withFields, beforeQuery_append hu.front]

theorem fromFragment_withFields (hu : u.Closed) (fs : List Field) :
    fromFragment (u.withFields fs).text = u.fragmentText := by
  rw [text_withFields, fromFragment_append hu.front Form.ne_fragment_of_mem_text]

/-- The fields are found between the marks of the query and the fragment. -/
theorem fields_queryOf_withFields (hu : u.Closed) (fs : List Field) :
    Form.fields (queryOf (u.withFields fs).text) = fs := by
  rw [text_withFields, queryOf_append hu.front Form.ne_fragment_of_mem_text, Form.fields_text]

end Address
end Descramble.Url
