import HamlTree.Bracket
import Mathlib.Data.List.Induction

/-!
# BracketLaws -- which closer a scan finds

A scan carries the number of open brackets from one character to the next. What it finds can be said
without that: `StaysOpen pair depth text` counts openers and closers in the initial parts of a text
and says that `depth` brackets around it are never all closed inside it, and `Closes` says that the
closer behind `inside` is the first at which they are. A text does one or the other
(`stays_or_closes`), and the scan follows it: past a text that stays open it goes on at the depth
reached there (`scan_append`), so whether a text is read in one piece or in two makes no difference,
and it ends at the closer of a text that closes (`scan_eq_iff`).

Inside one bracket `StaysOpen` and `Closes` are about texts whose brackets match (`Balanced`). All of
this needs two different characters: where opener and closer are the same, nothing closes.
-/

set_option autoImplicit false

namespace HamlTree.Bracket

variable {pair : Pair} {depth : Nat} {text front inside rest : List Char} {c : Char}

/-! ## Counting brackets -/

/-- How many of `depth` brackets and those in the text are open behind it. -/
def depthBehind (pair : Pair) (depth : Nat) (text : List Char) : Nat :=
  depth + text.count pair.opener - text.count pair.closer

/-- The `depth` brackets around a text are not all closed in it, nor in any initial part of it. -/
def StaysOpen (pair : Pair) (depth : Nat) (text : List Char) : Prop :=
  ∀ part, part <+: text → part.count pair.closer < depth + part.count pair.opener

/-- The closer behind `inside` is the first that leaves none of `depth` brackets open. -/
structure Closes (pair : Pair) (depth : Nat) (text inside rest : List Char) : Prop where
  whole : text = inside ++ pair.closer :: rest
  stays : StaysOpen pair depth inside
  last : inside.count pair.closer + 1 = depth + inside.count pair.opener

/-- The brackets of a text match: no initial part closes more than it opens, and the text itself
closes as many as it opens. -/
structure Balanced (pair : Pair) (text : List Char) : Prop where
  initial : ∀ part, part <+: text → part.count pair.closer ≤ part.count pair.opener
  even : text.count pair.closer = text.count pair.opener

theorem staysOpen_nil (positive : 0 < depth) : StaysOpen pair depth [] := by
  intro part initial
  rw [List.prefix_nil.1 initial]
  simpa using positive

theorem StaysOpen.initial (stays : StaysOpen pair depth (c :: text)) : StaysOpen pair depth [c] := by
  intro part initial
  exact stays part (initial.trans (by simp))

/-- Behind the first character the text stays open at the depth reached there. -/
theorem StaysOpen.tail (stays : StaysOpen pair depth (c :: text)) :
    StaysOpen pair (depthBehind pair depth [c]) text := by
  intro part initial
  have first := stays.initial [c] (List.prefix_refl _)
  have longer := stays (c :: part) (by simpa using initial)
  rw [List.count_cons, List.count_cons] at longer
  simp only [depthBehind, List.count_singleton] at first ⊢
  omega

theorem StaysOpen.concat (stays : StaysOpen pair depth text)
    (above : (text ++ [c]).count pair.closer < depth + (text ++ [c]).count pair.opener) :
    StaysOpen pair depth (text ++ [c]) := by
  intro part initial
  rcases List.prefix_concat_iff.1 initial with rfl | shorter
  · exact above
  · exact stays part shorter

/-- A text stays open or closes somewhere. -/
theorem stays_or_closes (positive : 0 < depth) (text : List Char) :
    StaysOpen pair depth text ∨ ∃ inside rest, Closes pair depth text inside rest := by
  induction text using List.reverseRecOn with
  | nil => exact .inl (staysOpen_nil positive)
  | append_singleton text c ih =>
      rcases ih with stays | ⟨inside, rest, closes⟩
      · by_cases above : (text ++ [c]).count pair.closer < depth + (text ++ [c]).count pair.opener
        · exact .inl (stays.concat above)
        · -- the depth sinks by one at most, so `c` is the closer that was missing
          have before := stays text (List.prefix_refl _)
          simp only [List.count_append, List.count_singleton] at above
          obtain rfl : c = pair.closer := by
            apply Decidable.byContradiction
            intro other
            simp only [beq_iff_eq, other, if_false] at above
            omega
          refine .inr ⟨text, [], rfl, stays, ?_⟩
          simp only [beq_self_eq_true, if_true] at above
          omega
      · refine .inr ⟨inside, rest ++ [c], ?_, closes.stays, closes.last⟩
        rw [closes.whole, List.append_assoc, List.cons_append]

/-! ## Scanning -/

/-- One character behind which the brackets are not all closed is read and kept. -/
theorem scan_cons_of_stays (distinct : pair.opener ≠ pair.closer)
    (stays : StaysOpen pair depth [c]) (rest : List Char) :
    scan pair depth (c :: rest) = (scan pair (depthBehind pair depth [c]) rest).cons c := by
  rw [scan]
  by_cases opens : c = pair.opener
  · have deeper : depthBehind pair depth [c] = depth + 1 := by
      simp [depthBehind, opens, distinct]
    rw [if_pos opens, deeper]
  · by_cases closes : c = pair.closer
    · have shallower : depthBehind pair depth [c] = depth - 1 := by
        simp [depthBehind, closes, Ne.symm distinct]
      have further : ¬ depth ≤ 1 := by
        have above := stays [c] (List.prefix_refl _)
        simp only [closes, List.count_singleton, beq_self_eq_true, if_true, beq_iff_eq,
          Ne.symm distinct, if_false] at above
        omega
      rw [if_neg opens, if_pos closes, if_neg further, shallower]
    · have level : depthBehind pair depth [c] = depth := by
        simp [depthBehind, opens, closes]
      rw [if_neg opens, if_neg closes, level]

/-- Past a text that stays open the scan goes on at the depth reached there. -/
theorem scan_append (distinct : pair.opener ≠ pair.closer) (stays : StaysOpen pair depth front)
    (rest : List Char) :
    scan pair depth (front ++ rest) =
      { scan pair (depthBehind pair depth front) rest with
        inside := front ++ (scan pair (depthBehind pair depth front) rest).inside } := by
  induction front generalizing depth with
  | nil => simp [depthBehind]
  | cons c front ih =>
      have first : StaysOpen pair depth [c] := stays.initial
      have above := first [c] (List.prefix_refl _)
      have same : depthBehind pair (depthBehind pair depth [c]) front =
          depthBehind pair depth (c :: front) := by
        simp only [depthBehind, List.count_singleton] at above ⊢
        rw [List.count_cons, List.count_cons]
        omega
      rw [List.cons_append, scan_cons_of_stays distinct first, ih stays.tail, same]
      rfl

theorem isBalanced_scan_append (distinct : pair.opener ≠ pair.closer)
    (stays : StaysOpen pair depth front) (rest : List Char) :
    (scan pair depth (front ++ rest)).isBalanced =
      (scan pair (depthBehind pair depth front) rest).isBalanced := by
  rw [scan_append distinct stays]
  rfl

theorem scan_of_stays (distinct : pair.opener ≠ pair.closer) (stays : StaysOpen pair depth text) :
    scan pair depth text = ⟨text, [], depthBehind pair depth text⟩ := by
  have whole := scan_append distinct stays []
  simpa [scan] using whole

theorem Closes.scan_eq (distinct : pair.opener ≠ pair.closer)
    (closes : Closes pair depth text inside rest) : scan pair depth text = ⟨inside, rest, 0⟩ := by
  have single : depthBehind pair depth inside = 1 := by
    have last := closes.last
    unfold depthBehind
    omega
  rw [closes.whole, scan_append distinct closes.stays, single]
  simp [scan, Ne.symm distinct]

/-- Behind the closer none of the brackets is open. -/
theorem Closes.even (distinct : pair.opener ≠ pair.closer)
    (closes : Closes pair depth text inside rest) :
    (inside ++ [pair.closer]).count pair.closer =
      depth + (inside ++ [pair.closer]).count pair.opener := by
  have last := closes.last
  simp only [List.count_append, List.count_singleton, beq_self_eq_true, if_true, beq_iff_eq,
    Ne.symm distinct, if_false]
  omega

/-- A text closes in one place. -/
theorem Closes.unique {other otherRest : List Char} (distinct : pair.opener ≠ pair.closer)
    (closes : Closes pair depth text inside rest) (again : Closes pair depth text other otherRest) :
    inside = other ∧ rest = otherRest := by
  have same := (closes.scan_eq distinct).symm.trans (again.scan_eq distinct)
  injection same with first last
  exact ⟨first, last⟩

/-- A scan comes to depth zero exactly at the closer of the outermost bracket. -/
theorem scan_eq_iff (distinct : pair.opener ≠ pair.closer) (positive : 0 < depth) :
    scan pair depth text = ⟨inside, rest, 0⟩ ↔ Closes pair depth text inside rest := by
  constructor
  · intro scans
    rcases stays_or_closes positive text with stays | ⟨other, behind, closes⟩
    · have left := stays text (List.prefix_refl _)
      rw [scan_of_stays distinct stays, depthBehind] at scans
      injection scans
      omega
    · rw [closes.scan_eq distinct] at scans
      cases scans
      exact closes
  · intro closes
    exact closes.scan_eq distinct

/-- Where a text stays open, what closes behind it closes in the rest. -/
theorem Closes.of_stays (distinct : pair.opener ≠ pair.closer) (stays : StaysOpen pair depth front)
    (closes : Closes pair depth (front ++ text) inside rest) :
    ∃ part, inside = front ++ part ∧ text = part ++ pair.closer :: rest := by
  rcases List.append_eq_append_iff.1 closes.whole with ⟨part, same, behind⟩ | ⟨part, same, behind⟩
  · exact ⟨part, same, behind⟩
  · cases part with
    | nil => exact ⟨[], by simpa using same.symm, behind.symm⟩
    | cons c part =>
        -- the closer would stand in the text that stays open
        obtain ⟨rfl, -⟩ := List.cons.inj behind
        have above := stays (inside ++ [pair.closer]) ⟨part, by simp [same]⟩
        have even := closes.even distinct
        omega

theorem isBalanced_scan_iff (distinct : pair.opener ≠ pair.closer) (positive : 0 < depth) :
    (scan pair depth text).isBalanced = true ↔ ∃ inside rest, Closes pair depth text inside rest := by
  constructor
  · intro balanced
    rcases found : scan pair depth text with ⟨inside, rest, reached⟩
    rw [found] at balanced
    obtain rfl : reached = 0 := by simpa [Scan.isBalanced] using balanced
    exact ⟨inside, rest, (scan_eq_iff distinct positive).1 found⟩
  · rintro ⟨inside, rest, closes⟩
    rw [closes.scan_eq distinct]
    rfl

theorem staysOpen_iff (distinct : pair.opener ≠ pair.closer) (positive : 0 < depth) :
    (scan pair depth text).isBalanced = false ↔ StaysOpen pair depth text := by
  constructor
  · intro unbalanced
    refine (stays_or_closes positive text).resolve_right ?_
    rw [← isBalanced_scan_iff distinct positive, unbalanced]
    decide
  · intro stays
    have left := stays text (List.prefix_refl _)
    rw [scan_of_stays distinct stays]
    simp only [Scan.isBalanced, depthBehind, beq_eq_false_iff_ne]
    omega

/-! ## One bracket -/

theorem staysOpen_one_iff :
    StaysOpen pair 1 text ↔
      ∀ part, part <+: text → part.count pair.closer ≤ part.count pair.opener := by
  constructor
  · intro stays part initial
    have := stays part initial
    omega
  · intro closes part initial
    have := closes part initial
    omega

/-- One bracket closes behind a text whose brackets match. -/
theorem closes_one_iff :
    Closes pair 1 text inside rest ↔ text = inside ++ pair.closer :: rest ∧ Balanced pair inside := by
  constructor
  · rintro ⟨whole, stays, last⟩
    exact ⟨whole, staysOpen_one_iff.1 stays, by omega⟩
  · rintro ⟨whole, initial, even⟩
    exact ⟨whole, staysOpen_one_iff.2 initial, by omega⟩

/-- Whether the brackets of a text match can be found by scanning it. -/
theorem balanced_iff (distinct : pair.opener ≠ pair.closer) :
    Balanced pair inside ↔ scan pair 1 (inside ++ [pair.closer]) = ⟨inside, [], 0⟩ := by
  rw [scan_eq_iff distinct Nat.one_pos, closes_one_iff]
  simp

end HamlTree.Bracket
