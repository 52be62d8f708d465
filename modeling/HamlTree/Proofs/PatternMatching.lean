import HamlTree.Text.CharClass
import Mathlib.Logic.Relation

/-!
# PatternMatching -- patterns that are tried from left to right

A `Pattern` leads from a place in a text to places behind it. Often there are several ways, and
`Pattern.ways` lists them with the preferred one first: more repetitions before fewer, the first
alternative before the second. A `search` tries the places of the text from left to right and takes
the first way from the first place that has one.

Which way is taken depends on that order; which ways there are does not. For a pattern that looks at
nothing around the text it takes, the ways are the texts with some property (`Takes`), and the texts
of a pattern are put together from those of its parts.
-/

set_option autoImplicit false

namespace HamlTree

open Text

/-- A place in a text: the characters before it, the nearest first, the characters behind it, and
the text that was kept on the way there. -/
@[ext]
structure Place where
  before : List Char
  behind : List Char
  kept : Option (List Char) := none
deriving DecidableEq, Repr

namespace Place

/-- The way from one place to another takes this text. -/
structure Passes (place : Place) (text : List Char) (next : Place) : Prop where
  behind : place.behind = text ++ next.behind
  before : next.before = text.reverse ++ place.before
  kept : next.kept = place.kept

theorem Passes.append {place middle next : Place} {text more : List Char}
    (passes : place.Passes text middle) (onward : middle.Passes more next) :
    place.Passes (text ++ more) next where
  behind := by rw [passes.behind, onward.behind, List.append_assoc]
  before := by rw [onward.before, passes.before, List.reverse_append, List.append_assoc]
  kept := onward.kept.trans passes.kept

theorem Passes.split {place next : Place} {text more : List Char}
    (passes : place.Passes (text ++ more) next) :
    ∃ middle : Place, place.Passes text middle ∧ middle.Passes more next :=
  ⟨⟨text.reverse ++ place.before, more ++ next.behind, place.kept⟩,
    ⟨by rw [passes.behind, List.append_assoc], rfl, rfl⟩,
    ⟨rfl, by rw [passes.before, List.reverse_append, List.append_assoc], passes.kept⟩⟩

theorem passes_nil_iff {place next : Place} : place.Passes [] next ↔ next = place := by
  constructor
  · intro passes
    exact Place.ext passes.before passes.behind.symm passes.kept
  · rintro rfl
    exact ⟨rfl, rfl, rfl⟩

/-- From one place there is one way to what is left of the text. -/
theorem Passes.unique {place next other : Place} {text more : List Char}
    (passes : place.Passes text next) (again : place.Passes more other)
    (same : next.behind = other.behind) : next = other := by
  obtain rfl : text = more := by
    have whole := passes.behind.symm.trans again.behind
    rw [same] at whole
    exact List.append_cancel_right whole
  exact Place.ext (passes.before.trans again.before.symm) same (passes.kept.trans again.kept.symm)

end Place

/-- What a text may be searched for. -/
inductive Pattern where
  /-- Nothing. -/
  | empty
  /-- The start of the text. -/
  | start
  /-- The start or the end of a word. -/
  | boundary
  /-- A character. -/
  | one (test : Char → Bool)
  /-- One pattern and then another. -/
  | both (first second : Pattern)
  /-- One pattern or else another. -/
  | either (first second : Pattern)
  /-- A pattern any number of times. -/
  | many (inner : Pattern)
  /-- A pattern whose text is kept. -/
  | keep (inner : Pattern)

namespace Pattern

/-- The next character belongs to a word. -/
def inWord (text : List Char) : Bool :=
  text.head?.any isWord

/-- The ways to take such steps again and again, each a step further, and to stop. -/
def repeated (step : Place → List Place) : Nat → Place → List Place
  | 0, place => [place]
  | fuel + 1, place =>
    ((step place).filter fun next => next.behind.length < place.behind.length).flatMap
      (repeated step fuel) ++ [place]

/-- The places that the pattern leads to, in the order of preference. -/
def ways : Pattern → Place → List Place
  | empty, place => [place]
  | start, place => if place.before.isEmpty then [place] else []
  | boundary, place => if inWord place.before != inWord place.behind then [place] else []
  | one test, ⟨before, c :: behind, kept⟩ => if test c then [⟨c :: before, behind, kept⟩] else []
  | one _, ⟨_, [], _⟩ => []
  | both first second, place => (first.ways place).flatMap second.ways
  | either first second, place => first.ways place ++ second.ways place
  | many inner, place => repeated inner.ways place.behind.length place
  | keep inner, place => (inner.ways place).map fun next =>
    { next with kept := some (place.behind.take (place.behind.length - next.behind.length)) }

/-- A pattern or nothing. -/
def optional (inner : Pattern) : Pattern :=
  either inner empty

/-- A text. -/
def text (word : List Char) : Pattern :=
  word.foldr (fun c rest => both (one (· == c)) rest) empty

/-- One of several texts, the earlier before the later. -/
def oneOf (words : List (List Char)) : Pattern :=
  words.foldr (fun word rest => either (text word) rest) (one fun _ => false)

/-- The places of a text from here on. -/
def places (before : List Char) : List Char → List Place
  | [] => [⟨before, [], none⟩]
  | c :: behind => ⟨before, c :: behind, none⟩ :: places (c :: before) behind

/-- Where the preferred way from the leftmost place ends. -/
def search (pattern : Pattern) (text : List Char) : Option Place :=
  ((places [] text).flatMap pattern.ways).head?

/-! ## Ways -/

theorem mem_repeated {step : Place → List Place} {fuel : Nat} {place last : Place}
    (enough : place.behind.length ≤ fuel) :
    last ∈ repeated step fuel place ↔
      Relation.ReflTransGen (fun here next => next ∈ step here ∧
        next.behind.length < here.behind.length) place last := by
  induction fuel generalizing place with
  | zero =>
      rw [repeated, List.mem_singleton, Relation.ReflTransGen.cases_head_iff]
      constructor
      · exact fun same => .inl same.symm
      · rintro (same | ⟨next, ⟨-, shorter⟩, -⟩)
        · exact same.symm
        · omega
  | succ fuel ih =>
      rw [repeated, List.mem_append, List.mem_singleton, Relation.ReflTransGen.cases_head_iff,
        List.mem_flatMap, or_comm]
      refine or_congr eq_comm (exists_congr fun next => ?_)
      rw [List.mem_filter, decide_eq_true_eq]
      exact and_congr_right fun ⟨_, shorter⟩ => ih (by omega)

theorem mem_ways_both {first second : Pattern} {place next : Place} :
    next ∈ (both first second).ways place ↔
      ∃ middle ∈ first.ways place, next ∈ second.ways middle :=
  List.mem_flatMap

theorem ways_optional_both (first second : Pattern) (place : Place) :
    (both (optional first) second).ways place =
      (both first second).ways place ++ second.ways place := by
  simp [optional, ways]

theorem mem_ways_boundary {place next : Place} :
    next ∈ boundary.ways place ↔ next = place ∧ inWord place.before ≠ inWord place.behind := by
  rw [ways]
  split
  · next differs => simp [bne_iff_ne.1 differs]
  · next same => simp_all

theorem before_ne_nil_of_mem_places {before behind : List Char} (inside : before ≠ []) :
    ∀ place ∈ places before behind, place.before ≠ [] := by
  induction behind generalizing before with
  | nil => simpa [places] using inside
  | cons c behind ih =>
      rw [places, List.forall_mem_cons]
      exact ⟨inside, ih (List.cons_ne_nil c before)⟩

/-- A search for a pattern at the start of the text tries one place only. -/
theorem search_start (pattern : Pattern) (text : List Char) :
    search (both start pattern) text = (pattern.ways ⟨[], text, none⟩).head? := by
  have first : (both start pattern).ways ⟨[], text, none⟩ = pattern.ways ⟨[], text, none⟩ := by
    simp [ways]
  have later (c : Char) (behind : List Char) :
      (places [c] behind).flatMap (both start pattern).ways = [] := by
    refine List.flatMap_eq_nil_iff.2 fun place member => ?_
    simp [ways, before_ne_nil_of_mem_places (List.cons_ne_nil c []) place member]
  cases text with
  | nil => rw [search, places, List.flatMap_singleton, first]
  | cons c text => rw [search, places, List.flatMap_cons, first, later, List.append_nil]

/-- Ways that all go through one place are those from that place. -/
theorem head?_flatMap_of_single {before : List Place} {onward : Place → List Place} {place : Place}
    (passed : place ∈ before) (single : ∀ other ∈ before, onward other ≠ [] → other = place) :
    (before.flatMap onward).head? = (onward place).head? := by
  cases onwards : onward place with
  | nil =>
      have stuck : ∀ other ∈ before, onward other = [] := by
        intro other member
        exact Classical.byContradiction fun goesOn => goesOn (single other member goesOn ▸ onwards)
      rw [List.flatMap_eq_nil_iff.2 stuck]
  | cons way ways =>
      induction before with
      | nil => cases passed
      | cons first before ih =>
          rw [List.forall_mem_cons] at single
          cases found : onward first with
          | cons other others =>
              obtain rfl := single.1 (by simp [found])
              simp [onwards]
          | nil =>
              rcases List.mem_cons.1 passed with rfl | later
              · cases onwards.symm.trans found
              · rw [List.flatMap_cons, found, List.nil_append, ih later single.2]

/-! ## Texts -/

/-- The pattern leads as far as such a text goes, whatever is around it. -/
def Takes (pattern : Pattern) (taken : List Char → Prop) : Prop :=
  ∀ place next : Place, next ∈ pattern.ways place ↔ ∃ text, taken text ∧ place.Passes text next

variable {pattern first second : Pattern} {taken takenFirst takenSecond : List Char → Prop}

theorem Takes.congr {other : List Char → Prop} (takes : Takes pattern taken)
    (same : ∀ text, taken text ↔ other text) : Takes pattern other := by
  intro place next
  simp only [takes place next, same]

theorem Takes.empty : Takes empty (· = []) := by
  intro place next
  simp only [ways, List.mem_singleton, exists_eq_left, Place.passes_nil_iff]

theorem mem_ways_one {test : Char → Bool} {place next : Place} :
    next ∈ (one test).ways place ↔ ∃ c, test c = true ∧ place.Passes [c] next := by
  obtain ⟨before, behind, kept⟩ := place
  constructor
  · intro member
    cases behind with
    | nil => cases member
    | cons c behind =>
        rw [ways] at member
        split at member
        · next holds => exact ⟨c, holds, List.mem_singleton.1 member ▸ ⟨rfl, rfl, rfl⟩⟩
        · cases member
  · rintro ⟨c, holds, passes⟩
    obtain rfl : behind = c :: next.behind := passes.behind
    rw [ways, if_pos holds, List.mem_singleton]
    exact Place.ext passes.before rfl passes.kept

theorem Takes.one (test : Char → Bool) :
    Takes (one test) fun text => ∃ c, test c = true ∧ text = [c] := by
  intro place next
  rw [mem_ways_one]
  constructor
  · rintro ⟨c, holds, passes⟩
    exact ⟨[c], ⟨c, holds, rfl⟩, passes⟩
  · rintro ⟨_, ⟨c, holds, rfl⟩, passes⟩
    exact ⟨c, holds, passes⟩

theorem Takes.both (takes : Takes first takenFirst) (onward : Takes second takenSecond) :
    Takes (both first second) fun text =>
      ∃ front back, text = front ++ back ∧ takenFirst front ∧ takenSecond back := by
  intro place next
  simp only [mem_ways_both, takes place, onward _ next]
  constructor
  · rintro ⟨middle, ⟨front, inFirst, passes⟩, back, inSecond, passesBack⟩
    exact ⟨front ++ back, ⟨front, back, rfl, inFirst, inSecond⟩, passes.append passesBack⟩
  · rintro ⟨_, ⟨front, back, rfl, inFirst, inSecond⟩, passes⟩
    obtain ⟨middle, passes, passesBack⟩ := passes.split
    exact ⟨middle, ⟨front, inFirst, passes⟩, back, inSecond, passesBack⟩

/-- Where the second pattern goes on from one place only, the first one has no choice. -/
theorem Takes.head?_both (takes : Takes first takenFirst) {place middle : Place} {front : List Char}
    (isTaken : takenFirst front) (passes : place.Passes front middle)
    (single : ∀ (other : Place) (text : List Char), takenFirst text → place.Passes text other →
      second.ways other ≠ [] → other.behind = middle.behind) :
    ((Pattern.both first second).ways place).head? = (second.ways middle).head? := by
  refine head?_flatMap_of_single ((takes _ _).2 ⟨front, isTaken, passes⟩) fun other member onward => ?_
  obtain ⟨text, textTaken, passesText⟩ := (takes _ _).1 member
  exact passesText.unique passes (single other text textTaken passesText onward)

theorem Takes.either (takes : Takes first takenFirst) (others : Takes second takenSecond) :
    Takes (either first second) fun text => takenFirst text ∨ takenSecond text := by
  intro place next
  simp only [ways, List.mem_append, takes place next, others place next, or_and_right, exists_or]

theorem Takes.many (takes : Takes pattern taken) (written : ¬ taken []) :
    Takes (many pattern) fun text =>
      ∃ texts : List (List Char), text = texts.flatten ∧ ∀ each ∈ texts, taken each := by
  intro place next
  rw [ways, mem_repeated (Nat.le_refl _)]
  constructor
  · intro way
    induction way using Relation.ReflTransGen.head_induction_on with
    | refl => exact ⟨[], ⟨[], rfl, by simp⟩, rfl, rfl, rfl⟩
    | head step _ ih =>
        obtain ⟨text, takenText, passes⟩ := (takes _ _).1 step.1
        obtain ⟨_, ⟨texts, rfl, each⟩, onward⟩ := ih
        exact ⟨(text :: texts).flatten,
          ⟨text :: texts, rfl, List.forall_mem_cons.2 ⟨takenText, each⟩⟩, passes.append onward⟩
  · rintro ⟨_, ⟨texts, rfl, each⟩, passes⟩
    induction texts generalizing place with
    | nil => rw [Place.passes_nil_iff.1 passes]
    | cons text texts ih =>
        rw [List.forall_mem_cons] at each
        obtain ⟨middle, passes, onward⟩ := passes.split
        refine .head ⟨(takes _ _).2 ⟨text, each.1, passes⟩, ?_⟩ (ih middle each.2 onward)
        have longer : text ≠ [] := fun nothing => written (nothing ▸ each.1)
        rw [passes.behind, List.length_append]
        exact Nat.lt_add_of_pos_left (List.length_pos_iff.2 longer)

/-- A character any number of times is a run of such characters. -/
theorem Takes.run (test : Char → Bool) :
    Takes (Pattern.many (Pattern.one test)) fun text => ∀ c ∈ text, test c = true := by
  refine ((Takes.one test).many (by simp)).congr fun text => ⟨?_, fun each => ?_⟩
  · rintro ⟨texts, rfl, each⟩ c member
    obtain ⟨text, listed, member⟩ := List.mem_flatten.1 member
    obtain ⟨d, holds, rfl⟩ := each text listed
    obtain rfl := List.mem_singleton.1 member
    exact holds
  · refine ⟨text.map fun c => [c], ?_, fun single listed => ?_⟩
    · rw [← List.flatMap_def, List.flatMap_singleton']
    · obtain ⟨c, member, rfl⟩ := List.mem_map.1 listed
      exact ⟨c, each c member, rfl⟩

theorem Takes.optional (takes : Takes pattern taken) :
    Takes (optional pattern) fun text => taken text ∨ text = [] :=
  takes.either .empty

theorem Takes.text (word : List Char) : Takes (text word) (· = word) := by
  induction word with
  | nil => exact .empty
  | cons c word ih =>
      refine ((Takes.one (· == c)).both ih).congr fun whole => ⟨?_, ?_⟩
      · rintro ⟨_, _, rfl, ⟨d, same, rfl⟩, rfl⟩
        rw [beq_iff_eq.1 same, List.singleton_append]
      · rintro rfl
        exact ⟨[c], word, rfl, ⟨c, beq_self_eq_true c, rfl⟩, rfl⟩

theorem Takes.oneOf (words : List (List Char)) : Takes (oneOf words) (· ∈ words) := by
  induction words with
  | nil =>
      refine (Takes.one fun _ => false).congr fun text => ⟨?_, fun member => by cases member⟩
      rintro ⟨c, never, -⟩
      cases never
  | cons word words ih => exact ((Takes.text word).either ih).congr fun text => List.mem_cons.symm

/-- What is kept is the text that was taken. -/
theorem Takes.mem_ways_keep (takes : Takes pattern taken) {place next : Place} :
    next ∈ (keep pattern).ways place ↔ ∃ text, taken text ∧ place.behind = text ++ next.behind ∧
      next.before = text.reverse ++ place.before ∧ next.kept = some text := by
  have cut {way : Place} {text : List Char} (passed : place.behind = text ++ way.behind) :
      place.behind.take (place.behind.length - way.behind.length) = text := by
    simp [passed]
  rw [ways, List.mem_map]
  constructor
  · rintro ⟨way, member, rfl⟩
    obtain ⟨text, takenText, passes⟩ := (takes place way).1 member
    exact ⟨text, takenText, passes.behind, passes.before, congrArg some (cut passes.behind)⟩
  · rintro ⟨text, takenText, behind, before, kept⟩
    exact ⟨⟨next.before, next.behind, place.kept⟩,
      (takes _ _).2 ⟨text, takenText, behind, before, rfl⟩,
      Place.ext rfl rfl (by rw [cut behind, kept])⟩

end Pattern

end HamlTree
