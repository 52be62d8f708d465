import HamlTree.Proofs.HandedLines

/-!
# CommaContinuation -- the lines that code takes

Code goes on over the lines that follow as long as the last line read ends in a comma that is no
character literal. `Feed.Continuation feed code lines after` is that rule about the lines taken: each
text before the last asks for another line, and the last asks for none, or none is left. The code of
a node is the text that was there with these lines behind it, each as it was handed out.

Two readers take lines in this way: output expressions, which start with one of `outputSigns`
(`Expression.Outcome`), and silent code. An expression that is read as anything else but code takes
nothing.
-/

set_option autoImplicit false

namespace HamlTree

open Text

/-! ## What a comma continues -/

/-- A text goes on if it ends in a comma, has something before it, and ends in no character literal
`?,` or `?\,`. A `?` behind a letter, a number or `_` belongs to a predicate's name. -/
theorem isContinued_iff (text : List Char) :
    isContinued text = true ↔
      2 ≤ text.length ∧ [','] <:+ text ∧
        (∀ c, [c, '?', ','] <:+ text → isAlphanumeric c = true ∨ c = '_') ∧
        ¬ ['?', '\\', ','] <:+ text := by
  simp only [← List.reverse_prefix, ← @List.length_reverse _ text, isContinued]
  generalize text.reverse = backwards
  match backwards with
  | [] => simp
  | last :: before =>
      by_cases comma : last = ','
      · subst comma
        match before with
        | [] => simp
        | [b] => simp [endsInCharLiteral]
        | b :: a :: more =>
            have literal : ∀ c : Char, [c, '?', ','].reverse <+: ',' :: b :: a :: more ↔
                b = '?' ∧ c = a := by simp [eq_comm]
            have escaped : ['?', '\\', ','].reverse <+: ',' :: b :: a :: more ↔
                b = '\\' ∧ a = '?' := by simp [eq_comm]
            have ends : [','].reverse <+: ',' :: b :: a :: more := by simp
            simp only [literal, escaped, ends, List.length_cons, endsInCharLiteral]
            grind
      · simp [comma, Ne.symm comma]

namespace Feed

/-- `lines` are taken to continue `code`: each text before the last ends in a comma that asks for the
next, and the last does not, or no line is left. -/
structure Continuation (feed : Feed) (code : List Char) (lines : List (List Char)) (after : Feed) :
    Prop where
  handed : feed.Hands lines after
  asks : ∀ text ∈ (code :: lines).dropLast, isContinued text = true
  ends : isContinued ((code :: lines).getLast (List.cons_ne_nil code lines)) = false ∨ after.pending = []

theorem pull_continues (feed : Feed) (code : List Char) :
    feed.Continuation code (feed.pull code).1 (feed.pull code).2 := by
  induction known : feed.pending.length using Nat.strongRecOn generalizing feed code with
  | _ left ih =>
      rw [pull_eq]
      by_cases continued : isContinued code = true
      · rw [if_pos continued]
        cases taken : feed.next with
        | none =>
            refine ⟨.done feed, ?_, .inr (next_eq_none.1 taken)⟩
            simp
        | some result =>
            obtain ⟨line, middle⟩ := result
            have rest := ih _ (known ▸ next_fewer taken) middle line rfl
            refine ⟨.line taken rest.handed, ?_, ?_⟩
            · intro text member
              rw [List.dropLast_cons_cons] at member
              rcases List.mem_cons.1 member with rfl | member
              · exact continued
              · exact rest.asks text member
            · rw [List.getLast_cons (List.cons_ne_nil line _)]
              exact rest.ends
      · rw [if_neg continued]
        refine ⟨.done feed, ?_, .inl (by simpa using continued)⟩
        simp

end Feed

/-! ## Output expressions -/

namespace Expression

/-- The text is an output sign and this code, with white space between at most. -/
def Holds (text code : List Char) : Prop :=
  ∃ sign ∈ outputSigns, ∃ blanks, text = sign ++ blanks ++ code ∧
    (∀ c ∈ blanks, isSpace c = true) ∧ ∃ c rest, code = c :: rest ∧ isSpace c = false

/-- What can come of reading an output expression. Only code takes lines. -/
inductive Outcome (text : List Char) (feed : Feed) : Reading (Option Content) → Prop where
  | code {code : List Char} {lines : List (List Char)} {after : Feed} (keyword : Option Keyword)
      (escapes preserves : Bool) (holds : Holds text code)
      (continued : feed.Continuation code lines after) :
      Outcome text feed (.ok (some (.script (String.ofList (joinLines (code :: lines))) keyword
        escapes preserves)), after)
  | text (words : String) (escapes : Bool) : Outcome text feed (.ok (some (.text words escapes)), feed)
  | nothing : Outcome text feed (.ok none, feed)
  | refused (fault : Fault) : Outcome text feed (.error fault, feed)

theorem holds_trimStart {text rest sign : List Char} (signed : sign ∈ outputSigns)
    (whole : text = sign ++ rest) (visible : trimStart rest ≠ []) : Holds text (trimStart rest) := by
  refine ⟨sign, signed, rest.takeWhile isSpace, ?_, fun c member => List.mem_takeWhile_imp member, ?_⟩
  · rw [whole, List.append_assoc, trimStart, List.takeWhile_append_dropWhile]
  · obtain ⟨c, more, starts⟩ := List.exists_cons_of_ne_nil visible
    refine ⟨c, more, starts, ?_⟩
    have stops := List.head?_dropWhile_not isSpace rest
    rw [← trimStart, starts] at stops
    simpa using stops

theorem read_outcome (text : List Char) (feed : Feed) : Outcome text feed (read text feed) := by
  have way := read_reads text feed
  generalize read text feed = reading at way ⊢
  cases way with
  | @code sign rest signed whole preserves escapes =>
      unfold code
      dsimp only
      split
      · exact .refused _
      · rename_i visible
        have visible : trimStart rest ≠ [] := by simpa using visible
        exact .code _ _ _ (holds_trimStart signed whole visible) (feed.pull_continues _)
  | text shown escapes => exact .text _ escapes
  | nothing => exact .nothing

end Expression

/-! ## Silent code -/

namespace Line

/-- The text is the sign of silent code and this code, with blanks between at most. -/
def HoldsSilent (text code : List Char) : Prop :=
  ∃ blanks, text = '-' :: (blanks ++ code) ∧ (∀ c ∈ blanks, c = ' ') ∧ code.head? ≠ some ' '

theorem holdsSilent_dropWhile (rest : List Char) :
    HoldsSilent ('-' :: rest) (rest.dropWhile (· == ' ')) := by
  refine ⟨rest.takeWhile (· == ' '), ?_, ?_, ?_⟩
  · rw [List.takeWhile_append_dropWhile]
  · intro c member
    simpa using List.mem_takeWhile_imp member
  · intro blank
    have stops := List.head?_dropWhile_not (· == ' ') rest
    rw [blank] at stops
    simp at stops

/-- A line that is read as silent code is that code with the lines that continue it. -/
theorem read_silentScript {stamp : Stamp} {text : List Char} {feed after : Feed} {script : String}
    {keyword : Option Keyword}
    (reads : read stamp text feed = (.ok (.node (.silentScript script keyword)), after)) :
    ∃ code lines, HoldsSilent text code ∧ script = String.ofList (joinLines (code :: lines)) ∧
      feed.Continuation code lines after := by
  have notElement : ∀ {source}, yields (Element.read stamp source feed) ≠
      (.ok (.node (.silentScript script keyword)), after) := by
    intro source found
    obtain ⟨content, inner, same⟩ := yields_eq_ok (congrArg Prod.fst found)
    obtain ⟨tag, inline, rfl, -⟩ := Element.read_element inner
    cases same
  have notExpression : yieldsAny (Expression.read text feed) ≠
      (.ok (.node (.silentScript script keyword)), after) := by
    intro found
    obtain ⟨-, same⟩ | ⟨content, inner, same⟩ := yieldsAny_eq_ok (congrArg Prod.fst found)
    · cases same
    · obtain ⟨_, _, rfl⟩ | ⟨_, _, _, _, rfl⟩ := Expression.read_puts inner
      · cases same
      · cases same
  unfold read at reads
  split at reads
  · cases reads
  · exact absurd reads notElement
  · cases reads
  · rename_i rest
    cases comment : readComment rest with
    | error fault => rw [comment] at reads; cases reads
    | ok content =>
        obtain ⟨_, _, rfl⟩ := readComment_eq comment
        rw [comment] at reads
        cases reads
  · cases reads
  · rename_i rest _
    cases reads
    exact ⟨_, _, holdsSilent_dropWhile rest, rfl, feed.pull_continues _⟩
  · exact absurd reads notExpression
  · exact absurd reads notElement
  · exact absurd reads notElement
  · rename_i name
    cases named : readFilterName (':' :: name) with
    | error fault => rw [named] at reads; cases reads
    | ok word => rw [named] at reads; cases reads
  · exact absurd reads notExpression

end Line

/-! ## Code and its lines -/

/-- The code of a node is the code on its line and, behind line feeds, the logical lines that
continue it as they are; the feed moves on past the physical lines that make those up. An expression
that is read as text, as nothing or not at all takes no line, and what continues code is a comma at
the end that belongs to no character literal. -/
theorem code_takes_continuations :
    (∀ text feed script keyword escapes preserves after,
      Expression.read text feed = (.ok (some (.script script keyword escapes preserves)), after) →
        ∃ code lines, Expression.Holds text code ∧
          script = String.ofList (joinLines (code :: lines)) ∧
          feed.Continuation code lines after ∧ feed.Spends lines after) ∧
    (∀ text feed,
      (∀ script keyword escapes preserves, (Expression.read text feed).1 ≠
        .ok (some (.script script keyword escapes preserves))) →
        (Expression.read text feed).2 = feed) ∧
    (∀ stamp text feed script keyword after,
      Line.read stamp text feed = (.ok (.node (.silentScript script keyword)), after) →
        ∃ code lines, Line.HoldsSilent text code ∧
          script = String.ofList (joinLines (code :: lines)) ∧
          feed.Continuation code lines after ∧ feed.Spends lines after) ∧
    ∀ text, isContinued text = true ↔
      2 ≤ text.length ∧ [','] <:+ text ∧
        (∀ c, [c, '?', ','] <:+ text → isAlphanumeric c = true ∨ c = '_') ∧
        ¬ ['?', '\\', ','] <:+ text := by
  refine ⟨?_, ?_, ?_, isContinued_iff⟩
  · intro text feed script keyword escapes preserves after reads
    have outcome := Expression.read_outcome text feed
    rw [reads] at outcome
    cases outcome with
    | code keyword escapes preserves holds continued =>
        exact ⟨_, _, holds, rfl, continued, continued.handed.spends⟩
  · intro text feed uncoded
    have outcome := Expression.read_outcome text feed
    generalize Expression.read text feed = reading at outcome uncoded
    cases outcome with
    | code keyword escapes preserves => exact absurd rfl (uncoded _ keyword escapes preserves)
    | text | nothing | refused => rfl
  · intro stamp text feed script keyword after reads
    obtain ⟨code, lines, holds, same, continued⟩ := Line.read_silentScript reads
    exact ⟨code, lines, holds, same, continued, continued.handed.spends⟩

/-- The code on this line asks for the next, which asks for a logical line made of two. -/
theorem code_takes_continuations_folded :
    Expression.read "= f(a,".toList
        ⟨none, ["  b,".toList, "  c |".toList, "  d) |".toList, "%p".toList], 1⟩ =
      (.ok (some (.script "f(a,\n  b,\n  c \nd) " none true false)),
        ⟨none, ["%p".toList], 4⟩) ∧
    ∃ code lines, Expression.Holds "= f(a,".toList code ∧
      "f(a,\n  b,\n  c \nd) " = String.ofList (joinLines (code :: lines)) ∧
      Feed.Continuation ⟨none, ["  b,".toList, "  c |".toList, "  d) |".toList, "%p".toList], 1⟩
        code lines ⟨none, ["%p".toList], 4⟩ ∧
      Feed.Spends ⟨none, ["  b,".toList, "  c |".toList, "  d) |".toList, "%p".toList], 1⟩
        lines ⟨none, ["%p".toList], 4⟩ := by
  have reads : Expression.read "= f(a,".toList
      ⟨none, ["  b,".toList, "  c |".toList, "  d) |".toList, "%p".toList], 1⟩ =
        (.ok (some (.script "f(a,\n  b,\n  c \nd) " none true false)),
          ⟨none, ["%p".toList], 4⟩) := by
    rfl
  exact ⟨reads, code_takes_continuations.1 _ _ _ _ _ _ _ reads⟩

end HamlTree
