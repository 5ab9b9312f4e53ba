/-
  Quoted runs: between two quotes, a quote that belongs to
  the content is written twice.

  Key definitions include:
    * `double`
    * `undouble`
    * `quoted`

  Correctness is proven by:
    * `undouble_double`
    * `double_eq_self_iff`
-/

------------------------------------------------------------
-- Doubling
------------------------------------------------------------

namespace SqlTemplate

namespace Text

/- Write every occurrence of `q` twice. -/
def double (q : Char) : List Char → List Char
| [] => []
| c :: cs =>
    if c = q then q :: q :: double q cs else c :: double q cs

/- Read every adjacent pair of `q` as one, from the left. -/
def undouble (q : Char) : List Char → List Char
| [] => []
| [c] => [c]
| c :: d :: cs =>
    if c = q ∧ d = q then
      q :: undouble q cs
    else
      c :: undouble q (d :: cs)

/- A run of text between two quotes. -/
def quoted (q : Char) (cs : List Char) : List Char :=
  q :: (double q cs ++ [q])

/- Undoubling keeps a character that is not the quote. -/
private theorem undouble_cons_double
    (q c : Char)
    (cs : List Char)
    (hc : c ≠ q) :
    undouble q (c :: double q cs) =
      c :: undouble q (double q cs) := by
  cases h : double q cs with
  | nil => simp [undouble]
  | cons d ds => simp [undouble, hc]

/- Undoubling takes back what doubling did. -/
theorem undouble_double
    (q : Char)
    (cs : List Char) :
    undouble q (double q cs) = cs := by
  induction cs with
  | nil => rfl
  | cons c cs ih =>
      by_cases hc : c = q
      · simp [double, undouble, hc, ih]
      · simp only [double, hc, if_false]
        rw [undouble_cons_double q c cs hc, ih]

------------------------------------------------------------
-- Characters of Doubled Texts
------------------------------------------------------------

section

variable {q c : Char} {cs : List Char}

theorem mem_double : c ∈ double q cs ↔ c ∈ cs := by
  induction cs with
  | nil => rfl
  | cons e cs ih =>
      rw [double, List.mem_cons]
      split
      next hQuote => simp [ih, hQuote]
      next => rw [List.mem_cons, ih]

theorem length_double :
    (double q cs).length = cs.length + cs.count q := by
  induction cs with
  | nil => rfl
  | cons c cs ih =>
      rw [double, List.count_cons]
      split
      next hQuote =>
        simp only [List.length_cons, ih, hQuote, beq_self_eq_true, if_true]
        omega
      next hQuote =>
        simp only [List.length_cons, ih, beq_iff_eq, if_neg hQuote]
        omega

/- Doubling changes every text that has the quote. -/
theorem double_eq_self_iff : double q cs = cs ↔ q ∉ cs := by
  constructor
  · intro hSame
    have hLength : (double q cs).length = cs.length + cs.count q :=
      length_double
    rw [hSame, Nat.left_eq_add, List.count_eq_zero] at hLength
    exact hLength
  · intro hNone
    induction cs with
    | nil => rfl
    | cons c cs ih =>
        rw [List.mem_cons, not_or] at hNone
        rw [double, if_neg (Ne.symm hNone.1), ih hNone.2]

end

end Text

end SqlTemplate
