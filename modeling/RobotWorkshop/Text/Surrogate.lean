/-!
Halves of surrogate pairs.  The numbers from D800 to DFFF are those of half a character, and no
character has one of them; a text may still hold such a half by itself.  Some characters of the last
plane carry the halves.  Where one of these stands for itself it is written behind a mark, and so is
the mark.

A text is written from numbers by `ofCode` and shown as numbers by `codes`:

    codes (numbers.flatMap ofCode) = numbers
-/

namespace RobotWorkshop.Surrogate

/-- The number of the first half. -/
def first : Nat := 0xD800

/-- The number of halves. -/
def count : Nat := 0x800

/-- The number of the character that carries the first half. -/
def carrier : Nat := 0x10F000

/-- Stands before a character that carries no half but itself. -/
def mark : Char := Char.ofNat (carrier + count)

/-- Whether a number is that of a half. -/
def isCode (n : Nat) : Bool := first ≤ n && n < first + count

/-- Whether a character with that number is written behind a mark. -/
def isMarked (n : Nat) : Bool := carrier ≤ n && n ≤ carrier + count

/-- The half or the character that a number stands for. -/
def ofCode (n : Nat) : List Char :=
  if isCode n then [Char.ofNat (carrier + (n - first))]
  else if isMarked n then [mark, Char.ofNat n]
  else [Char.ofNat n]

/-- The number that a character without a mark stands for. -/
def code (c : Char) : Nat := if isMarked c.toNat then c.toNat - carrier + first else c.toNat

/-- The numbers of the halves and characters in a text. -/
def codes : List Char → List Nat
  | [] => []
  | [c] => [code c]
  | c :: d :: rest => if c = mark then d.toNat :: codes rest else code c :: codes (d :: rest)

/-! ## What is written can be shown -/

theorem isCode_iff {n : Nat} : isCode n ↔ 0xD800 ≤ n ∧ n < 0xE000 := by
  rw [isCode, Bool.and_eq_true, decide_eq_true_iff, decide_eq_true_iff]
  rfl

theorem isMarked_iff {n : Nat} : isMarked n ↔ 0x10F000 ≤ n ∧ n ≤ 0x10F800 := by
  rw [isMarked, Bool.and_eq_true, decide_eq_true_iff, decide_eq_true_iff]
  rfl

theorem toNat_ofNat {n : Nat} (h : n.isValidChar) : (Char.ofNat n).toNat = n := by
  rw [Char.ofNat, dif_pos h]
  rfl

theorem toNat_mark : mark.toNat = 0x10F800 := toNat_ofNat (by decide)

theorem codes_cons {c : Char} (h : c ≠ mark) (rest : List Char) :
    codes (c :: rest) = code c :: codes rest := by
  cases rest with
  | nil => rfl
  | cons d rest => rw [codes, if_neg h]

/-- A number that stands for a half or for a character is shown as it was written. -/
theorem codes_ofCode_append {n : Nat} (h : n < 0x110000) (rest : List Char) :
    codes (ofCode n ++ rest) = n :: codes rest := by
  have unmarked {m : Nat} (valid : m.isValidChar) (other : m ≠ 0x10F800) : Char.ofNat m ≠ mark :=
    fun same => other (by rw [← toNat_ofNat valid, same, toNat_mark])
  by_cases half : isCode n
  · have range := isCode_iff.1 half
    have valid : (carrier + (n - first)).isValidChar := by
      simp only [carrier, first, Nat.isValidChar]
      omega
    have carried : isMarked (carrier + (n - first)) := by
      rw [isMarked_iff]
      simp only [carrier, first]
      omega
    rw [ofCode, if_pos half, List.singleton_append,
      codes_cons (unmarked valid (by simp only [carrier, first]; omega)), code, toNat_ofNat valid,
      if_pos carried, Nat.add_sub_cancel_left,
      Nat.sub_add_cancel (show first ≤ n from range.1)]
  · have valid : n.isValidChar := by
      have := mt isCode_iff.2 half
      simp only [Nat.isValidChar]
      omega
    by_cases marked : isMarked n
    · rw [ofCode, if_neg half, if_pos marked]
      show codes (mark :: Char.ofNat n :: rest) = _
      rw [codes, if_pos rfl, toNat_ofNat valid]
    · have other : n ≠ 0x10F800 := fun same => marked (isMarked_iff.2 (by omega))
      rw [ofCode, if_neg half, if_neg marked, List.singleton_append,
        codes_cons (unmarked valid other), code, toNat_ofNat valid, if_neg marked]

theorem codes_flatMap_ofCode {numbers : List Nat} (h : ∀ n ∈ numbers, n < 0x110000) :
    codes (numbers.flatMap ofCode) = numbers := by
  induction numbers with
  | nil => rfl
  | cons n rest ih =>
    rw [List.flatMap_cons, codes_ofCode_append (h n List.mem_cons_self),
      ih fun m member => h m (List.mem_cons_of_mem n member)]

/-- Whether a text holds a half. -/
def isBroken (text : String) : Bool := (codes text.toList).any isCode

end RobotWorkshop.Surrogate
