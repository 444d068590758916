import Descramble.Text.Basic

namespace Descramble.Text

/-- The code points of the Unicode property White_Space. -/
def blankRanges : List (Nat × Nat) :=
  [(9, 13), (32, 32), (133, 133), (160, 160), (5760, 5760), (8192, 8202), (8232, 8233),
   (8239, 8239), (8287, 8287), (12288, 12288)]

def isBlank (c : Char) : Bool := inRanges blankRanges c

def skipBlank (s : Text) : Text := s.dropWhile isBlank

def trim (s : Text) : Text := (skipBlank (skipBlank s).reverse).reverse

def symbol? (c : Char) (s : Text) : Option Text :=
  match skipBlank s with
  | [] => none
  | d :: r => if d = c then some r else none

@[simp] theorem skipBlank_nil : skipBlank [] = [] := rfl

theorem skipBlank_cons (c : Char) (s : Text) :
    skipBlank (c :: s) = if isBlank c then skipBlank s else c :: s := by
  simp [skipBlank, List.dropWhile_cons]

theorem skipBlank_append (h : ∀ c ∈ blanks, isBlank c = true) (s : Text) :
    skipBlank (blanks ++ s) = skipBlank s := by
  induction blanks with
  | nil => rfl
  | cons c blanks ih =>
    rw [List.cons_append, skipBlank_cons, if_pos (h c (by simp))]
    exact ih fun d hd => h d (by simp [hd])

theorem symbol?_append (h : ∀ d ∈ blanks, isBlank d = true) (hc : isBlank c = false) (s : Text) :
    symbol? c (blanks ++ c :: s) = some s := by
  simp [symbol?, skipBlank_append h, skipBlank_cons, hc]

/-- The code points of the Unicode general category Nd, decimal digits of all scripts. -/
def decimalDigitRanges : List (Nat × Nat) :=
  [(48, 57), (1632, 1641), (1776, 1785), (1984, 1993), (2406, 2415), (2534, 2543), (2662, 2671),
   (2790, 2799), (2918, 2927), (3046, 3055), (3174, 3183), (3302, 3311), (3430, 3439),
   (3558, 3567), (3664, 3673), (3792, 3801), (3872, 3881), (4160, 4169), (4240, 4249),
   (6112, 6121), (6160, 6169), (6470, 6479), (6608, 6617), (6784, 6793), (6800, 6809),
   (6992, 7001), (7088, 7097), (7232, 7241), (7248, 7257), (42528, 42537), (43216, 43225),
   (43264, 43273), (43472, 43481), (43504, 43513), (43600, 43609), (44016, 44025),
   (65296, 65305), (66720, 66729), (68912, 68921), (68928, 68937), (69734, 69743),
   (69872, 69881), (69942, 69951), (70096, 70105), (70384, 70393), (70736, 70745),
   (70864, 70873), (71248, 71257), (71360, 71369), (71376, 71395), (71472, 71481),
   (71904, 71913), (72016, 72025), (72688, 72697), (72784, 72793), (73040, 73049),
   (73120, 73129), (73552, 73561), (90416, 90425), (92768, 92777), (92864, 92873),
   (93008, 93017), (93552, 93561), (118000, 118009), (120782, 120831), (123200, 123209),
   (123632, 123641), (124144, 124153), (124401, 124410), (125264, 125273), (130032, 130041)]

def isDecimalDigit (c : Char) : Bool := inRanges decimalDigitRanges c

def digitValue (c : Char) : Nat := c.toNat - 48

theorem isDecimalDigit_of_isDigit (h : c.isDigit = true) : isDecimalDigit c = true := by
  simp only [Char.isDigit, Bool.and_eq_true, decide_eq_true_eq] at h
  have lower : 48 ≤ c.toNat := h.1
  have upper : c.toNat ≤ 57 := h.2
  simp [isDecimalDigit, inRanges, decimalDigitRanges, lower, upper]

end Descramble.Text
