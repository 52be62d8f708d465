import HamlTree.FilterBlock
import HamlTree.Line
import HamlTree.Proofs.TrackerLaws
import Mathlib.Data.List.TakeWhile

/-!
# CheckedReaders -- the readers with every partial operation checked

A difference of two numbers is defined if the second is no larger, and a text can be cut at an
offset in bytes that lies within the text and between two characters, which is to say behind one of
its beginnings (`Text.cutAt?_append`, `Text.cutAt?_eq_some`). The readers are written here once more
with exactly such operations: `sub?` for a difference, `Text.cutAt?` for a slice, offsets counted in
bytes of UTF-8, and list accesses by index. A checked reader is named like the reader, with a `?`,
and gives `none` if any operation on its way is not defined.

None ever is: for each checked reader there is an equation `f?_eq` that gives back the reader
itself, whatever the text and the feed, up to `Line.read?_eq`. The work is in four places: the
indentation takes one byte a character (`Indentation.byteLength_indent`), a filter's body is cut
inside the indentation (`Collector.append?_eq`), a bracket scan cuts where it has read to
(`Bracket.scanFrom?_eq`), and taking classes and ids off the front of a text ends with the text
(`Element.takeSelectors?_eq`).
-/

set_option autoImplicit false

namespace HamlTree

open Text

/-! ## Differences and cuts -/

/-- The difference of two numbers, if there is one. -/
def sub? (whole part : Nat) : Option Nat :=
  if part ≤ whole then some (whole - part) else none

theorem sub?_eq {whole part : Nat} (fits : part ≤ whole) : sub? whole part = some (whole - part) :=
  if_pos fits

theorem sub?_add (whole part : Nat) : sub? (whole + part) part = some whole := by
  rw [sub?_eq (Nat.le_add_left ..), Nat.add_sub_cancel]

namespace Text

/-- How many bytes a text takes. -/
def byteLength : List Char → Nat
  | [] => 0
  | c :: rest => c.utf8Size + byteLength rest

/-- The two parts of a text before and behind an offset in bytes, if the offset is within the text
and between two characters. -/
def cutAt? : List Char → Nat → Option (List Char × List Char)
  | [], offset => if offset = 0 then some ([], []) else none
  | c :: rest, offset =>
    if offset = 0 then some ([], c :: rest)
    else if c.utf8Size ≤ offset then
      (cutAt? rest (offset - c.utf8Size)).map fun parts => (c :: parts.1, parts.2)
    else none

@[simp] theorem byteLength_nil : byteLength [] = 0 := rfl

@[simp] theorem byteLength_cons (c : Char) (rest : List Char) :
    byteLength (c :: rest) = c.utf8Size + byteLength rest := rfl

@[simp] theorem byteLength_append (front back : List Char) :
    byteLength (front ++ back) = byteLength front + byteLength back := by
  induction front with
  | nil => simp
  | cons c rest ih => simp [ih, Nat.add_assoc]

/-- A text can be cut behind each of its beginnings. -/
theorem cutAt?_append (front back : List Char) :
    cutAt? (front ++ back) (byteLength front) = some (front, back) := by
  induction front with
  | nil => cases back <;> rfl
  | cons c rest ih =>
      have positive := c.utf8Size_pos
      rw [byteLength_cons, List.cons_append, cutAt?, if_neg (by omega), if_pos (by omega),
        Nat.add_sub_cancel_left, ih]
      rfl

theorem cutAt?_cons (c : Char) (rest : List Char) :
    cutAt? (c :: rest) c.utf8Size = some ([c], rest) :=
  cutAt?_append [c] rest

/-- And nowhere else. -/
theorem cutAt?_eq_some {text front back : List Char} {offset : Nat}
    (cut : cutAt? text offset = some (front, back)) :
    text = front ++ back ∧ offset = byteLength front := by
  induction text generalizing front offset with
  | nil =>
      simp only [cutAt?, Option.ite_none_right_eq_some] at cut
      obtain ⟨rfl, same⟩ := cut
      cases same
      exact ⟨rfl, rfl⟩
  | cons c rest ih =>
      simp only [cutAt?] at cut
      split at cut
      · rename_i start
        cases cut
        exact ⟨rfl, start⟩
      · simp only [Option.ite_none_right_eq_some, Option.map_eq_some_iff] at cut
        obtain ⟨fits, ⟨inner, others⟩, found, same⟩ := cut
        simp only [Prod.mk.injEq] at same
        obtain ⟨rfl, rfl⟩ := same
        obtain ⟨rfl, size⟩ := ih found
        exact ⟨rfl, by rw [byteLength_cons]; omega⟩

example : cutAt? ['ä', 'b'] 1 = none ∧ cutAt? ['ä', 'b'] 4 = none ∧
    cutAt? ['ä', 'b'] 2 = some (['ä'], ['b']) := by decide

end Text

/-! ## Indentation and filters -/

namespace Indentation

theorem utf8Size_eq_one {c : Char} (indents : isIndent c = true) : c.utf8Size = 1 := by
  simp only [isIndent, Bool.or_eq_true, beq_iff_eq] at indents
  rcases indents with rfl | rfl <;> rfl

/-- Indentation takes one byte a character. -/
theorem byteLength_indents {indent : List Char} (indents : ∀ c ∈ indent, isIndent c = true) :
    byteLength indent = indent.length := by
  induction indent with
  | nil => rfl
  | cons c rest ih =>
      rw [byteLength_cons, utf8Size_eq_one (indents c List.mem_cons_self),
        ih fun other member => indents other (List.mem_cons_of_mem _ member), List.length_cons,
        Nat.add_comm]

theorem byteLength_indent (line : List Char) :
    byteLength (split line).1 = (split line).1.length :=
  byteLength_indents fun _ => List.mem_takeWhile_imp

/-- The indentation is what the line has more than its text. -/
def split? (line : List Char) : Option (List Char × List Char) := do
  let text := line.dropWhile isIndent
  let size ← sub? (byteLength line) (byteLength text)
  let (indent, _) ← cutAt? line size
  return (indent, text)

theorem split?_eq (line : List Char) : split? line = some (split line) := by
  have size := sub?_add (byteLength (split line).1) (byteLength (split line).2)
  have cut := cutAt?_append (split line).1 (split line).2
  rw [← byteLength_append, split_append] at size
  rw [split_append] at cut
  rw [split?, show line.dropWhile isIndent = (split line).2 from rfl, size]
  simp [cut]

end Indentation

namespace FilterBlock.Collector

/-- Take one raw line, and cut the indentation of the body off it. -/
def append? (collector : Collector) (line : List Char) (level : Nat) :
    Option (Collector × Option Finished) := do
  let (indent, text) ← Indentation.split? line
  if text.isEmpty then return (collector.pushText [], none)
  else
    match collector.bodyIndent with
    | some body =>
      if byteLength indent < body then return collector.close
      else
        let (_, kept) ← cutAt? line body
        return (collector.pushText kept, none)
    | none =>
      if level < byteLength indent then
        return ({ collector with bodyIndent := some (byteLength indent) }.pushText text, none)
      else return collector.close

/-- A line of the body is cut inside its indentation, which is at least as wide as the body's. -/
theorem cutAt?_body {line : List Char} {body : Nat}
    (fits : body ≤ (Indentation.split line).1.length) :
    cutAt? line body = some (line.take body, line.drop body) := by
  have within : line.take body = (Indentation.split line).1.take body := by
    have whole := congrArg (List.take body) (Indentation.split_append line)
    rwa [List.take_append_of_le_length fits, eq_comm] at whole
  have size : byteLength (line.take body) = body := by
    rw [within, Indentation.byteLength_indents, List.length_take_of_le fits]
    exact fun c member => List.mem_takeWhile_imp (List.mem_of_mem_take member)
  have cut := cutAt?_append (line.take body) (line.drop body)
  rwa [List.take_append_drop, size] at cut

theorem append?_eq (collector : Collector) (line : List Char) (level : Nat) :
    collector.append? line level = some (collector.append line level) := by
  unfold append? append
  simp only [Indentation.split?_eq, Option.bind_eq_bind, Option.bind_some,
    Indentation.byteLength_indent]
  by_cases blank : (Indentation.split line).2.isEmpty = true
  · simp [blank]
  · cases collector.bodyIndent with
    | none => by_cases deeper : level < (Indentation.split line).1.length <;> simp [blank, deeper]
    | some body =>
        by_cases outside : (Indentation.split line).1.length < body
        · simp [blank, outside]
        · simp [blank, outside, cutAt?_body (Nat.le_of_not_lt outside)]

end FilterBlock.Collector

/-! ## Brackets -/

namespace Bracket

/-- Scan the rest of a text from an offset in bytes on; at the closer the whole text is cut on both
sides of it. -/
def scanFrom? (pair : Pair) (whole : List Char) : Nat → Nat → List Char → Option Scan
  | _, depth, [] => some ⟨whole, [], depth⟩
  | offset, depth, c :: rest =>
    if c = pair.opener then scanFrom? pair whole (offset + c.utf8Size) (depth + 1) rest
    else if c = pair.closer then
      if depth ≤ 1 then do
        let (inside, _) ← cutAt? whole offset
        let (_, after) ← cutAt? whole (offset + c.utf8Size)
        return ⟨inside, after, 0⟩
      else scanFrom? pair whole (offset + c.utf8Size) (depth - 1) rest
    else scanFrom? pair whole (offset + c.utf8Size) depth rest

/-- Read up to the closer that brings `depth` to zero. -/
def scan? (pair : Pair) (depth : Nat) (text : List Char) : Option Scan :=
  scanFrom? pair text 0 depth text

-- The text read so far is the invariant: it ends at the offset.
theorem scanFrom?_eq (pair : Pair) (front : List Char) (depth : Nat) (rest : List Char) :
    scanFrom? pair (front ++ rest) (byteLength front) depth rest =
      some { scan pair depth rest with inside := front ++ (scan pair depth rest).inside } := by
  induction rest generalizing front depth with
  | nil => simp [scanFrom?, scan]
  | cons c rest ih =>
      have next : byteLength front + c.utf8Size = byteLength (front ++ [c]) := by simp
      have whole : front ++ c :: rest = (front ++ [c]) ++ rest := by simp
      have onward : ∀ depth, scanFrom? pair (front ++ c :: rest) (byteLength front + c.utf8Size)
          depth rest = some { (scan pair depth rest).cons c with
            inside := front ++ ((scan pair depth rest).cons c).inside } := by
        intro depth
        rw [next, whole, ih]
        simp [Scan.cons]
      unfold scanFrom? scan
      by_cases opens : c = pair.opener
      · simp only [if_pos opens]
        exact onward _
      by_cases closes : c = pair.closer
      · by_cases final : depth ≤ 1
        · have inside := cutAt?_append front (c :: rest)
          have after := cutAt?_append (front ++ [c]) rest
          rw [← whole, ← next] at after
          simp only [if_neg opens, if_pos closes, if_pos final, inside, after]
          simp
        · simp only [if_neg opens, if_pos closes, if_neg final]
          exact onward _
      · simp only [if_neg opens, if_neg closes]
        exact onward _

theorem scan?_eq (pair : Pair) (depth : Nat) (text : List Char) :
    scan? pair depth text = some (scan pair depth text) :=
  scanFrom?_eq pair [] depth text

end Bracket

/-! ## The feed -/

/-- The text ends in a comma that continues it, seen from the characters before its end. -/
def isContinued? (text : List Char) : Option Bool :=
  if text.length ≤ 1 then some false
  else do
    let last ← text[← sub? text.length 1]?
    if last != ',' then return false
    else if 3 ≤ text.length then
      let a ← text[← sub? text.length 3]?
      let b ← text[← sub? text.length 2]?
      return !((!(isAlphanumeric a || a == '_') && b == '?') || (a == '?' && b == '\\'))
    else return true

theorem isContinued?_eq (text : List Char) : isContinued? text = some (isContinued text) := by
  obtain ⟨back, rfl⟩ : ∃ back, text = back.reverse := ⟨text.reverse, by simp⟩
  -- the last three characters, read backwards, are the first three
  match back with
  | [] => rfl
  | [c] => by_cases comma : c = ',' <;> simp [isContinued?, isContinued, comma]
  | [c, b] =>
      by_cases comma : c = ',' <;> simp [isContinued?, isContinued, endsInCharLiteral, sub?, comma]
  | c :: b :: a :: before =>
      by_cases comma : c = ',' <;>
        simp [isContinued?, isContinued, endsInCharLiteral, sub?, comma]

namespace Feed

/-- Take lines as long as they are piped, counting each as it is taken. The line that is not is
handed back. -/
def takePiped? : List (List Char) → Nat → Option (List (List Char) × List (List Char) × Nat)
  | [], lineno => some ([], [], lineno)
  | line :: rest, lineno =>
    if isPiped line then do
      let (more, left, last) ← takePiped? rest (lineno + 1)
      return (line :: more, left, last)
    else do
      let back ← sub? (lineno + 1) 1
      return ([], line :: rest, back)

/-- Take one logical line. -/
def next? (feed : Feed) : Option (Option (List Char × Feed)) :=
  match feed.pending with
  | [] => some none
  | line :: rest =>
    if isPiped line then do
      let (following, pending, lineno) ← takePiped? rest (feed.lineno + 1)
      return some (foldPiped line following, { feed with pending, lineno })
    else some (some (line, { feed with pending := rest, lineno := feed.lineno + 1 }))

/-- Take a line in the way asked for. -/
def take? (feed : Feed) (raw : Bool) : Option (Option (List Char × Feed)) :=
  if raw then some feed.nextRaw else feed.next?

/-- Take logical lines while the last text read is continued, at most `fuel` of them. -/
def pullAux? : Nat → List Char → Feed → Option (List (List Char) × Feed)
  | 0, _, feed => some ([], feed)
  | fuel + 1, text, feed => do
    if ← isContinued? text then
      match ← feed.next? with
      | none => return ([], feed)
      | some (line, after) =>
        let (more, final) ← pullAux? fuel line after
        return (line :: more, final)
    else return ([], feed)

/-- Code with its continuation lines, joined by line feeds. -/
def pullCode? (feed : Feed) (code : List Char) : Option (List Char × Feed) := do
  let (more, after) ← pullAux? feed.pending.length code feed
  return (joinLines (code :: more), after)

theorem takePiped?_eq (rest : List (List Char)) (lineno : Nat) :
    takePiped? rest lineno =
      some (rest.takeWhile isPiped, rest.dropWhile isPiped,
        lineno + (rest.takeWhile isPiped).length) := by
  induction rest generalizing lineno with
  | nil => rfl
  | cons line rest ih =>
      by_cases piped : isPiped line = true
      · simp [takePiped?, piped, ih]
        omega
      · simp [takePiped?, piped, sub?_add]

theorem next?_eq (feed : Feed) : feed.next? = some feed.next := by
  unfold next? next
  cases feed.pending with
  | nil => rfl
  | cons line rest =>
      by_cases piped : isPiped line = true <;> simp [piped, takePiped?_eq]

theorem take?_eq (feed : Feed) (raw : Bool) : feed.take? raw = some (feed.take raw) := by
  cases raw <;> simp [take?, take, next?_eq]

theorem pullAux?_eq (fuel : Nat) (text : List Char) (feed : Feed) :
    pullAux? fuel text feed = some (pullAux fuel text feed) := by
  induction fuel generalizing text feed with
  | zero => rfl
  | succ fuel ih =>
      simp only [pullAux?, pullAux, isContinued?_eq, next?_eq, Option.bind_eq_bind, Option.bind_some]
      cases isContinued text with
      | false => rfl
      | true => cases feed.next <;> simp [ih]

theorem pullCode?_eq (feed : Feed) (code : List Char) :
    feed.pullCode? code = some (feed.pullCode code) := by
  simp [pullCode?, pullCode, pull, pullAux?_eq]

end Feed

/-! ## Expressions -/

namespace Expression

/-- Code after an output sign. -/
def code? (text : List Char) (preserves escapes : Bool) (feed : Feed) :
    Option (Reading Content) :=
  let start := trimStart text
  if start.isEmpty then some (.error .missingCode, feed)
  else do
    let (whole, after) ← feed.pullCode? start
    return (.ok (.script (String.ofList whole) (Keyword.detect whole true) escapes preserves), after)

/-- What follows a bare output sign. -/
def output? (text : List Char) (preserves : Bool) (feed : Feed) : Option (Reading Content) :=
  match text with
  | '=' :: interpolated => some (.ok (words (trim interpolated) true), feed)
  | _ => code? text preserves true feed

/-- What follows `&` or `!`. -/
def flagged? (text : List Char) (escapes : Bool) (feed : Feed) : Option (Reading Content) :=
  match text with
  | '=' :: '=' :: interpolated => some (.ok (words (trimStart interpolated) escapes), feed)
  | '=' :: rest => code? rest false escapes feed
  | '~' :: rest => code? rest true escapes feed
  | _ => some (.ok (words (trim text) escapes), feed)

/-- Read an output expression. -/
def read? (text : List Char) (feed : Feed) : Option (Reading (Option Content)) :=
  match text with
  | '=' :: rest => (output? rest false feed).map present
  | '~' :: rest => (output? rest true feed).map present
  | '&' :: rest => (flagged? rest true feed).map present
  | '!' :: rest => (flagged? rest false feed).map present
  | _ =>
    let start := trimStart text
    if start.isEmpty then some (.ok none, feed) else some (.ok (some (words start true)), feed)

theorem code?_eq (text : List Char) (preserves escapes : Bool) (feed : Feed) :
    code? text preserves escapes feed = some (code text preserves escapes feed) := by
  unfold code? code
  by_cases gone : (trimStart text).isEmpty = true <;> simp [gone, Feed.pullCode?_eq]

theorem output?_eq (text : List Char) (preserves : Bool) (feed : Feed) :
    output? text preserves feed = some (output text preserves feed) := by
  unfold output? output
  split
  · rfl
  · simp_all [code?_eq]

theorem flagged?_eq (text : List Char) (escapes : Bool) (feed : Feed) :
    flagged? text escapes feed = some (flagged text escapes feed) := by
  unfold flagged? flagged
  split <;> simp_all [code?_eq]

theorem read?_eq (text : List Char) (feed : Feed) : read? text feed = some (read text feed) := by
  unfold read? read
  split
  · rw [output?_eq]; rfl
  · rw [output?_eq]; rfl
  · rw [flagged?_eq]; rfl
  · rw [flagged?_eq]; rfl
  · by_cases gone : (trimStart text).isEmpty = true <;> simp_all

end Expression

/-! ## Elements -/

namespace Element

/-- Take classes and ids off the front of a text, each up to the end of its name, in at most `fuel`
steps. -/
def takeSelectors? : Nat → List Char → Option (Except Fault (List (Char × List Char)))
  | _, [] => some (.ok [])
  | 0, _ :: _ => none
  | fuel + 1, sign :: rest =>
    let name := rest.takeWhile isNameChar
    if isSelectorSign sign && !name.isEmpty then do
      let (_, after) ← cutAt? (sign :: rest) (byteLength (sign :: name))
      match ← takeSelectors? fuel after with
      | .error fault => return .error fault
      | .ok selectors => return .ok ((sign, name) :: selectors)
    else some (.error .namelessSelector)

/-- The classes, with a blank between neighbours, and the last id. -/
def readSelectors? (text : List Char) : Option (Except Fault (List Char × List Char)) := do
  match ← takeSelectors? text.length text with
  | .error fault => return .error fault
  | .ok selectors =>
    let named (sign : Char) := (selectors.filter (·.1 == sign)).map Prod.snd
    return .ok (joinWith [' '] (named '.'), (named '#').getLast?.getD [])

/-- Read a group whose opener was just taken, with at most `fuel` further lines. -/
def readGroupAux? (pair : Bracket.Pair) :
    Nat → List Char → Feed → Option (Reading (List Char × List Char))
  | 0, text, feed => do
    let result ← Bracket.scan? pair 1 text
    if result.isBalanced then return (.ok (result.inside, trimStart result.rest), feed)
    else return (.error (openGroup pair), feed)
  | fuel + 1, text, feed => do
    let result ← Bracket.scan? pair 1 text
    if result.isBalanced then return (.ok (result.inside, trimStart result.rest), feed)
    else
      match ← feed.next? with
      | some (line, after) => readGroupAux? pair fuel (text ++ '\n' :: line) after
      | none => return (.error (openGroup pair), feed)

/-- Read groups of the pairs that are still available, at most `count` of them. -/
def readGroupsAux? : Nat → List Bracket.Pair → List Char → Feed →
    Option (Reading (List (List Char) × List Char))
  | 0, _, text, feed => some (.ok ([], text), feed)
  | count + 1, available, text, feed =>
    match available.find? fun pair => text.head? == some pair.opener with
    | none => some (.ok ([], text), feed)
    | some pair => do
      let (_, opened) ← cutAt? text pair.opener.utf8Size
      match ← readGroupAux? pair feed.pending.length opened feed with
      | (.error fault, after) => return (.error fault, after)
      | (.ok (group, rest), after) =>
        match ← readGroupsAux? count (available.erase pair) rest after with
        | (.error fault, final) => return (.error fault, final)
        | (.ok (groups, final), last) => return (.ok (group :: groups, final), last)

/-- Read at most one group in braces and one in parentheses. -/
def readAttributes? (text : List Char) (feed : Feed) :
    Option (Reading (List Char × List Char)) := do
  match ← readGroupsAux? 2 [braces, parens] text feed with
  | (.error fault, after) => return (.error fault, after)
  | (.ok (groups, rest), after) => return (.ok (joinWith [',', ' '] groups, rest), after)

/-- Read what follows the attribute groups. -/
def readTail? (stamp : Stamp) (tag : Tag) (text : List Char) (feed : Feed) :
    Option (Reading Content) :=
  let (nukes, afterNukes) := readNukes text
  match readSelfClosing afterNukes with
  | .error fault => some (.error fault, feed)
  | .ok (selfClosing, rest) => do
    match ← Expression.read? rest feed with
    | (.error fault, after) => return (.error fault, after)
    | (.ok inline, after) =>
      return (.ok (.element
        { tag with selfClosing, nukesInner := nukes.inner, nukesOuter := nukes.outer }
        (Inline.ofNode? (inline.map (Node.mk stamp)))), after)

/-- Read an element. -/
def read? (stamp : Stamp) (text : List Char) (feed : Feed) : Option (Reading Content) :=
  match readHead text with
  | .error fault => some (.error fault, feed)
  | .ok (name, selectors, rest) => do
    match ← readSelectors? selectors with
    | .error fault => return (.error fault, feed)
    | .ok (classes, id) =>
      match ← readAttributes? rest feed with
      | (.error fault, after) => return (.error fault, after)
      | (.ok (attributes, tail), after) =>
        readTail? stamp
          { name := String.ofList name, classes := String.ofList classes,
            id := String.ofList id, attributes := String.ofList attributes } tail after

theorem readGroupAux?_eq (pair : Bracket.Pair) (fuel : Nat) (text : List Char) (feed : Feed) :
    readGroupAux? pair fuel text feed = some (readGroupAux pair fuel text feed) := by
  induction fuel generalizing text feed with
  | zero =>
      rw [readGroupAux?, Bracket.scan?_eq]
      unfold readGroupAux
      by_cases balanced : (Bracket.scan pair 1 text).isBalanced = true <;> simp [balanced]
  | succ fuel ih =>
      rw [readGroupAux?, Bracket.scan?_eq, Feed.next?_eq]
      unfold readGroupAux
      by_cases balanced : (Bracket.scan pair 1 text).isBalanced = true
      · simp [balanced]
      · cases feed.next <;> simp [balanced, ih]

theorem readGroupsAux?_eq (count : Nat) (available : List Bracket.Pair) (text : List Char)
    (feed : Feed) :
    readGroupsAux? count available text feed = some (readGroupsAux count available text feed) := by
  induction count generalizing available text feed with
  | zero => rfl
  | succ count ih =>
      unfold readGroupsAux? readGroupsAux
      cases found : available.find? fun pair => text.head? == some pair.opener with
      | none => rfl
      | some pair =>
          have opens : text.head? = some pair.opener := by simpa using List.find?_some found
          obtain ⟨rest, rfl⟩ := List.head?_eq_some_iff.1 opens
          simp only [cutAt?_cons, List.tail_cons, readGroup, readGroupAux?_eq, ih,
            Option.bind_eq_bind, Option.bind_some]
          rcases readGroupAux pair feed.pending.length rest feed with ⟨fault | ⟨group, tail⟩, after⟩
          · rfl
          · dsimp only
            rcases readGroupsAux count (available.erase pair) tail after with ⟨fault | groups, last⟩
            · rfl
            · rfl

theorem readAttributes?_eq (text : List Char) (feed : Feed) :
    readAttributes? text feed = some (readAttributes text feed) := by
  unfold readAttributes? readAttributes
  rw [readGroupsAux?_eq]
  rcases readGroupsAux 2 [braces, parens] text feed with ⟨fault | groups, after⟩ <;> rfl

theorem readTail?_eq (stamp : Stamp) (tag : Tag) (text : List Char) (feed : Feed) :
    readTail? stamp tag text feed = some (readTail stamp tag text feed) := by
  unfold readTail? readTail
  dsimp only
  cases readSelfClosing (readNukes text).2 with
  | error fault => rfl
  | ok closing =>
      dsimp only
      rw [Expression.read?_eq]
      rcases Expression.read closing.2 feed with ⟨fault | inline, after⟩ <;> rfl

/-! ## Classes and ids -/

/-- The texts that classes and ids are read from. -/
def isSelectorChar (c : Char) : Bool :=
  isNameChar c || isSelectorSign c

theorem isSelectorSign_of_isNameChar {c : Char} (letter : isNameChar c = true) :
    isSelectorSign c = false := by
  rw [Bool.eq_false_iff]
  intro sign
  simp only [isSelectorSign, Bool.or_eq_true, beq_iff_eq] at sign
  rcases sign with rfl | rfl <;> exact absurd letter (by decide)

/-- What stands before the first sign is a name, and what follows is cut at its signs. -/
theorem cutSelectors_eq {text : List Char} (suits : text.all isSelectorChar = true) :
    cutSelectors text =
      (text.takeWhile isNameChar, (cutSelectors (text.dropWhile isNameChar)).2) := by
  induction text with
  | nil => rfl
  | cons c rest ih =>
      simp only [List.all_cons, Bool.and_eq_true, isSelectorChar] at suits
      cases letter : isNameChar c with
      | true =>
          have plain := isSelectorSign_of_isNameChar letter
          simp [cutSelectors, letter, plain, ih suits.2]
      | false =>
          have sign : isSelectorSign c = true := by simpa [letter] using suits.1
          simp [cutSelectors, letter, sign]

theorem all_dropWhile {text : List Char} (suits : text.all isSelectorChar = true) :
    (text.dropWhile isNameChar).all isSelectorChar = true :=
  List.all_eq_true.2 fun c member =>
    List.all_eq_true.1 suits c ((List.dropWhile_sublist _).subset member)

/-- Behind a name the next sign follows. -/
theorem cutSelectors_dropWhile {text : List Char} (suits : text.all isSelectorChar = true) :
    (cutSelectors (text.dropWhile isNameChar)).1 = [] := by
  rw [cutSelectors_eq (all_dropWhile suits)]
  have stops := List.head?_dropWhile_not isNameChar text
  cases behind : text.dropWhile isNameChar with
  | nil => rfl
  | cons c rest => simp_all

/-- Taken off the front one by one, the selectors are those between the signs. Each step takes a
sign, so `fuel` for every character is enough. -/
theorem takeSelectors?_eq {fuel : Nat} {text : List Char} (enough : text.length ≤ fuel)
    (suits : text.all isSelectorChar = true) :
    takeSelectors? fuel text =
      some (if !(cutSelectors text).1.isEmpty || (cutSelectors text).2.any (·.2.isEmpty)
        then .error .namelessSelector else .ok (cutSelectors text).2) := by
  induction fuel generalizing text with
  | zero =>
      obtain rfl := List.eq_nil_of_length_eq_zero (Nat.le_zero.1 enough)
      rfl
  | succ fuel ih =>
      cases text with
      | nil => rfl
      | cons sign rest =>
          have parts : rest.all isSelectorChar = true := by
            rw [List.all_cons, Bool.and_eq_true] at suits
            exact suits.2
          cases starts : isSelectorSign sign with
          | false => simp [takeSelectors?, cutSelectors, starts]
          | true =>
              have shorter : (rest.dropWhile isNameChar).length ≤ fuel :=
                Nat.le_trans (List.dropWhile_sublist _).length_le (Nat.le_of_succ_le_succ enough)
              have cut := cutAt?_append (sign :: rest.takeWhile isNameChar)
                (rest.dropWhile isNameChar)
              rw [List.cons_append, List.takeWhile_append_dropWhile] at cut
              have onward := ih shorter (all_dropWhile parts)
              rw [cutSelectors_dropWhile parts] at onward
              simp only [takeSelectors?, cutSelectors, starts, cut, onward, cutSelectors_eq parts,
                Option.bind_eq_bind, Option.bind_some]
              generalize rest.takeWhile isNameChar = name
              generalize (cutSelectors (rest.dropWhile isNameChar)).2 = others
              by_cases nameless : name.isEmpty = true
              · simp [nameless]
              · by_cases missing : others.any (·.2.isEmpty) = true
                · simp [nameless, missing]
                · simp [nameless, missing]

theorem readSelectors?_eq {text : List Char} (suits : text.all isSelectorChar = true) :
    readSelectors? text = some (readSelectors text) := by
  rw [readSelectors?, takeSelectors?_eq (Nat.le_refl _) suits]
  unfold readSelectors
  by_cases nameless : (!(cutSelectors text).1.isEmpty ||
      (cutSelectors text).2.any (·.2.isEmpty)) = true
  · simp [nameless]
  · simp [nameless]

theorem all_selectors {text name selectors rest : List Char}
    (head : readHead text = .ok (name, selectors, rest)) :
    selectors.all isSelectorChar = true := by
  unfold readHead at head
  split at head
  · dsimp only at head
    split at head
    · cases head
    · cases head
      exact List.all_takeWhile
  · cases head

theorem read?_eq (stamp : Stamp) (text : List Char) (feed : Feed) :
    read? stamp text feed = some (read stamp text feed) := by
  unfold read? read
  cases head : readHead text with
  | error fault => rfl
  | ok parts =>
      obtain ⟨name, selectors, rest⟩ := parts
      dsimp only
      rw [readSelectors?_eq (all_selectors head)]
      rcases readSelectors selectors with fault | ⟨classes, id⟩
      · rfl
      · simp only [readAttributes?_eq, Option.bind_eq_bind, Option.bind_some]
        rcases readAttributes rest feed with ⟨fault | ⟨attributes, tail⟩, after⟩
        · rfl
        · exact readTail?_eq ..

end Element

/-! ## Lines -/

namespace Line

/-- Read an html comment after its sign. -/
def readComment? (text : List Char) : Option (Except Fault Content) :=
  match trim text with
  | '[' :: inner => do
    let result ← Bracket.scan? brackets 1 inner
    if result.isBalanced then
      return .ok (.htmlComment (String.ofList (trimStart result.rest)) (String.ofList result.inside))
    else return .error .openCondition
  | body => some (.ok (.htmlComment (String.ofList body) ""))

/-- Read silent code after its sign. -/
def readSilentScript? (text : List Char) (feed : Feed) : Option (Content × Feed) := do
  let (whole, after) ← feed.pullCode? (text.dropWhile (· == ' '))
  return (.silentScript (String.ofList whole) (Keyword.detect whole false), after)

/-- Read a line with content, cutting its sign off by the bytes that the sign takes. -/
def read? (stamp : Stamp) (text : List Char) (feed : Feed) : Option (Reading Meaning) :=
  match text with
  | '\\' :: _ => do
    let (_, rest) ← cutAt? text '\\'.utf8Size
    return (.ok (.node (Expression.words rest true)), feed)
  | '%' :: _ => (Element.read? stamp text feed).map yields
  | '!' :: '!' :: '!' :: _ => do
    let (_, rest) ← cutAt? text (byteLength ['!', '!', '!'])
    return (.ok (.node (.doctype (String.ofList (trim rest)))), feed)
  | '/' :: _ => do
    let (_, rest) ← cutAt? text '/'.utf8Size
    let comment ← readComment? rest
    return (comment.map Meaning.node, feed)
  | '-' :: '#' :: _ => some (.ok (.node .authorComment), feed)
  | '-' :: _ => do
    let (_, rest) ← cutAt? text '-'.utf8Size
    let (content, after) ← readSilentScript? rest feed
    return (.ok (.node content), after)
  | '#' :: '{' :: _ => (Expression.read? text feed).map yieldsAny
  | '#' :: _ | '.' :: _ =>
    (Element.read? stamp ('%' :: 'd' :: 'i' :: 'v' :: text) feed).map yields
  | ':' :: _ => some ((readFilterName text).map Meaning.filter, feed)
  | _ => (Expression.read? text feed).map yieldsAny

theorem readComment?_eq (text : List Char) : readComment? text = some (readComment text) := by
  unfold readComment? readComment
  generalize trim text = body
  split
  · rename_i inner
    rw [Bracket.scan?_eq]
    by_cases balanced : (Bracket.scan brackets 1 inner).isBalanced = true <;> simp [balanced]
  · simp_all

theorem readSilentScript?_eq (text : List Char) (feed : Feed) :
    readSilentScript? text feed = some (readSilentScript text feed) := by
  rw [readSilentScript?, Feed.pullCode?_eq]
  rfl

/-- Whatever the line and the feed, no operation of a reader is undefined. -/
theorem read?_eq (stamp : Stamp) (text : List Char) (feed : Feed) :
    read? stamp text feed = some (read stamp text feed) := by
  unfold read? read
  split
  · simp [cutAt?_cons]
  · simp [Element.read?_eq]
  · rename_i rest
    have cut := cutAt?_append ['!', '!', '!'] rest
    simp only [List.cons_append, List.nil_append] at cut
    rw [cut]
    rfl
  · simp [cutAt?_cons, readComment?_eq]
  · rfl
  · simp_all [cutAt?_cons, readSilentScript?_eq]
  · simp [Expression.read?_eq]
  · simp_all [Element.read?_eq]
  · simp [Element.read?_eq]
  · rfl
  · simp_all [Expression.read?_eq]

end Line

end HamlTree
