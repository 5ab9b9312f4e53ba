import SqlTemplate.Proofs.Text.Letters

/-
  Upper case of upper case.  No upper case of a letter has an
  upper case but itself, since the upper cases of a run of
  letters are no members of another one, so a text in upper case
  stays as it is.

  Key definitions include:
    * `Text.IsCapital`
    * `Text.isApart`
  Correctness is proven by:
    * `Text.isCapital_of_mem`
    * `Text.upper_upper`
-/

------------------------------------------------------------
-- Runs of Letters
------------------------------------------------------------

namespace SqlTemplate

namespace Text

/- A letter is its own upper case. -/
def IsCapital (c : Char) : Prop :=
  upperChar c = [c]

instance (c : Char) : Decidable (IsCapital c) :=
  inferInstanceAs (Decidable (_ = _))

/- A code point lies among the upper cases of a run. -/
def isReached
    (run : Nat × Nat × Nat × Nat)
    (n : Nat) : Bool :=
  Nat.ble run.2.2.2 n && Nat.ble n (run.2.2.2 + (run.2.1 - run.1))

/-
  The upper cases of a run are no members of another run: they
  lie before it, after it, or between its members.
-/
def isApart (run other : Nat × Nat × Nat × Nat) : Bool :=
  !Nat.ble other.1 (run.2.2.2 + (run.2.1 - run.1)) ||
    !Nat.ble run.2.2.2 other.2.1 ||
      (Nat.beq other.2.2.1 2 &&
        (Nat.beq run.2.2.1 2 || Nat.beq run.1 run.2.1) &&
          Nat.beq ((run.2.2.2 + other.1) % 2) 1)

/- The upper case of a member of a run lies as far from the first. -/
theorem eq_of_upperInRun?
    {n m first last distance target : Nat}
    (hUpper : upperInRun? n (first, last, distance, target) = some m) :
    first ≤ n ∧ n ≤ last ∧ (n - first) % distance = 0 ∧
      m = target + (n - first) := by
  unfold upperInRun? at hUpper
  dsimp only at hUpper
  split at hUpper
  next hMember =>
    cases hUpper
    simp only [Bool.and_eq_true, decide_eq_true_eq, beq_iff_eq] at hMember
    exact ⟨hMember.1.1, hMember.1.2, hMember.2, rfl⟩
  next => cases hUpper

theorem isReached_of_upperInRun?
    {run : Nat × Nat × Nat × Nat}
    {n m : Nat}
    (hUpper : upperInRun? n run = some m) :
    isReached run m = true := by
  rcases run with ⟨first, last, distance, target⟩
  have hMember := eq_of_upperInRun? hUpper
  simp only [isReached, Bool.and_eq_true, Nat.ble_eq]
  omega

theorem upperInRun?_of_isApart
    {run other : Nat × Nat × Nat × Nat}
    {n m : Nat}
    (hApart : isApart run other = true)
    (hUpper : upperInRun? n run = some m) :
    upperInRun? m other = none := by
  rcases run with ⟨first, last, distance, target⟩
  rcases other with ⟨start, stop, step, target'⟩
  cases hOther : upperInRun? m (start, stop, step, target') with
  | none => rfl
  | some m' =>
      have hMember := eq_of_upperInRun? hUpper
      have hMember' := eq_of_upperInRun? hOther
      simp only [isApart, Bool.or_eq_true, Bool.and_eq_true,
        Bool.not_eq_true', ← Bool.not_eq_true, Nat.ble_eq,
        Nat.beq_eq] at hApart
      rcases hApart with (hBefore | hAfter) | ⟨⟨hStep, hDistance⟩, hOdd⟩
      · omega
      · omega
      · subst hStep
        rcases hDistance with hDistance | hSingle
        · subst hDistance
          omega
        · omega

------------------------------------------------------------
-- Letters in Upper Case
------------------------------------------------------------

/- No upper case of a run is a member of a run. -/
theorem runs_apart :
    (upperRuns.all fun run => upperRuns.all (isApart run)) = true := by
  decide +kernel

/- No upper case of a run has an upper case of several letters. -/
theorem expansions_apart :
    (upperRuns.all fun run =>
      upperExpansions.all fun entry => !isReached run entry.1) = true := by
  decide +kernel

/- A run has no upper case in ASCII, or a single one, a capital. -/
theorem runs_capital :
    ∀ run ∈ upperRuns, run.2.2.2 < 128 →
      run.1 = run.2.1 ∧ IsCapital (Char.ofNat run.2.2.2) := by
  decide +kernel

/- A letter beyond ASCII is a capital if no table has it. -/
theorem isCapital_of_not_mem
    {c : Char}
    (hLarge : 128 ≤ c.toNat)
    (hExpansions : ∀ entry ∈ upperExpansions, entry.1 ≠ c.toNat)
    (hRuns : ∀ run ∈ upperRuns, upperInRun? c.toNat run = none) :
    IsCapital c := by
  have hNoEntry :
      upperExpansions.find? (fun entry => entry.1 == c.toNat) = none := by
    rw [List.find?_eq_none]
    intro entry hEntry hSame
    exact hExpansions entry hEntry (beq_iff_eq.mp hSame)
  have hNoRun : upperRuns.findSome? (upperInRun? c.toNat) = none :=
    List.findSome?_eq_none_iff.mpr hRuns
  rw [IsCapital, upperChar, if_neg (Nat.not_lt.mpr hLarge), hNoEntry]
  dsimp only
  rw [hNoRun]

/- The upper case of a letter in a run is a capital. -/
theorem isCapital_of_run
    {run : Nat × Nat × Nat × Nat}
    {n m : Nat}
    (hRun : run ∈ upperRuns)
    (hUpper : upperInRun? n run = some m) :
    IsCapital (Char.ofNat m) := by
  have hReached := isReached_of_upperInRun? hUpper
  by_cases hAscii : m < 128
  · have hCapital := runs_capital run hRun
    simp only [isReached, Bool.and_eq_true, Nat.ble_eq] at hReached
    rcases hCapital (by omega) with ⟨hSingle, hCapital⟩
    rw [show m = run.2.2.2 by omega]
    exact hCapital
  · by_cases hValid : m.isValidChar
    · have hCode : (Char.ofNat m).toNat = m := by
        rw [Char.ofNat, dif_pos hValid]
        rfl
      apply isCapital_of_not_mem
      · rw [hCode]
        exact Nat.le_of_not_lt hAscii
      · rw [hCode]
        rintro entry hEntry rfl
        have hApart := List.all_eq_true.mp
          (List.all_eq_true.mp expansions_apart run hRun) entry hEntry
        rw [hReached] at hApart
        cases hApart
      · rw [hCode]
        intro other hOther
        have hApart := List.all_eq_true.mp
          (List.all_eq_true.mp runs_apart run hRun) other hOther
        exact upperInRun?_of_isApart hApart hUpper
    · have hZero : Char.ofNat m = Char.ofNat 0 := by
        rw [Char.ofNat, dif_neg hValid]
        rfl
      rw [hZero]
      decide

/- The letters of the upper case of a letter are capitals. -/
theorem isCapital_of_mem
    {c d : Char}
    (hMember : d ∈ upperChar c) :
    IsCapital d := by
  by_cases hAscii : c.toNat < 128
  · have hAll :
        ∀ n < 128, ∀ d ∈ upperChar (Char.ofNat n), IsCapital d := by
      decide
    exact forall_ascii (P := fun c => ∀ d ∈ upperChar c, IsCapital d) hAll
      hAscii d hMember
  · rw [upperChar, if_neg hAscii] at hMember
    split at hMember
    next entry hEntry =>
      have hAll :
          ∀ entry ∈ upperExpansions, ∀ n ∈ entry.2,
            IsCapital (Char.ofNat n) := by
        decide +kernel
      rcases List.mem_map.mp hMember with ⟨n, hCode, rfl⟩
      exact hAll entry (List.mem_of_find?_eq_some hEntry) n hCode
    next hEntry =>
      split at hMember
      next m hRun =>
        rcases List.exists_of_findSome?_eq_some hRun with
          ⟨run, hInRuns, hUpper⟩
        rw [List.mem_singleton.mp hMember]
        exact isCapital_of_run hInRuns hUpper
      next hRun =>
        rw [List.mem_singleton.mp hMember, IsCapital, upperChar,
          if_neg hAscii, hEntry]
        dsimp only
        rw [hRun]

------------------------------------------------------------
-- Texts in Upper Case
------------------------------------------------------------

theorem flatMap_upperChar
    {cs : List Char}
    (hCapitals : ∀ c ∈ cs, IsCapital c) :
    cs.flatMap upperChar = cs := by
  induction cs with
  | nil => rfl
  | cons c cs ih =>
      rw [List.forall_mem_cons] at hCapitals
      rw [List.flatMap_cons, ih hCapitals.2,
        show upperChar c = [c] from hCapitals.1]
      rfl

/- A text in upper case stays as it is. -/
theorem upper_upper (s : String) : upper (upper s) = upper s := by
  unfold upper
  rw [String.toList_ofList, flatMap_upperChar]
  intro d hMember
  rcases List.mem_flatMap.mp hMember with ⟨c, _, hUpper⟩
  exact isCapital_of_mem hUpper

end Text

end SqlTemplate
