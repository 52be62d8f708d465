import HamlTree.FilterBlock

/-!
# FilterLaws -- a filter grows line by line until it is handed over

A line given to an open filter either becomes one more line of its body (`append_eq_none`) or shows
the filter to be over, which is then handed over and nothing is left open (`append_eq_some`). The
blank lines cut at its end are lines of its body.
-/

set_option autoImplicit false

namespace HamlTree.FilterBlock

/-- The draft with one more line. -/
def Draft.push (draft : Draft) (text : String) : Draft :=
  { draft with texts := draft.texts ++ [text] }

theorem Draft.finish_trailingBlanks_le (draft : Draft) :
    draft.finish.trailingBlanks ≤ draft.texts.length :=
  Nat.sub_le ..

namespace Collector

variable {collector : Collector} {line : List Char} {level : Nat} {draft : Draft}

theorem close_of_draft (found : collector.draft = some draft) :
    collector.close = ({}, some draft.finish) := by
  simp [close, found]

theorem pushText_draft (found : collector.draft = some draft) (text : List Char) :
    (collector.pushText text).draft = some (draft.push (String.ofList text)) := by
  simp [pushText, found, Draft.push]

theorem append_cases (found : collector.draft = some draft) (line : List Char) (level : Nat) :
    collector.append line level = ({}, some draft.finish) ∨
      ∃ text, (collector.append line level).2 = none ∧
        (collector.append line level).1.draft = some (draft.push text) := by
  unfold append
  dsimp only
  split
  · exact .inr ⟨_, rfl, pushText_draft found []⟩
  · split
    · split
      · exact .inl (close_of_draft found)
      · exact .inr ⟨_, rfl, pushText_draft found _⟩
    · split
      · have fixed : { collector with
            bodyIndent := some (Indentation.split line).1.length }.draft = some draft := found
        exact .inr ⟨_, rfl, pushText_draft fixed _⟩
      · exact .inl (close_of_draft found)

/-- A line that does not end the filter becomes part of it. -/
theorem append_eq_none (found : collector.draft = some draft)
    (goesOn : (collector.append line level).2 = none) :
    ∃ text, (collector.append line level).1.draft = some (draft.push text) := by
  rcases append_cases found line level with ends | ⟨text, -, pushed⟩
  · rw [ends] at goesOn
    cases goesOn
  · exact ⟨text, pushed⟩

/-- A line that ends the filter hands it over and leaves nothing open. -/
theorem append_eq_some {block : Finished} (found : collector.draft = some draft)
    (ends : (collector.append line level).2 = some block) :
    block = draft.finish ∧ (collector.append line level).1 = {} := by
  rcases append_cases found line level with closed | ⟨text, goesOn, -⟩
  · rw [closed] at ends ⊢
    cases ends
    exact ⟨rfl, rfl⟩
  · rw [goesOn] at ends
    cases ends

end Collector

end HamlTree.FilterBlock
