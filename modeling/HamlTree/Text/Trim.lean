import HamlTree.Text.CharClass

/-!
# Text.Trim -- cutting the ends of a text

Text under inspection is a list of characters. Cutting at the front is `List.dropWhile`; cutting
at the back is the same on the reversed list. What the cuts remove is always a maximal run, so
cutting twice is cutting once.
-/

set_option autoImplicit false

namespace HamlTree.Text

/-- Remove the longest run at the end whose members all satisfy the test. -/
def dropEndWhile {α : Type} (test : α → Bool) (items : List α) : List α :=
  (items.reverse.dropWhile test).reverse

/-- Remove white space at the front. -/
def trimStart (text : List Char) : List Char :=
  text.dropWhile isSpace

/-- Remove white space at the end. -/
def trimEnd (text : List Char) : List Char :=
  dropEndWhile isSpace text

/-- Remove white space at both ends. -/
def trim (text : List Char) : List Char :=
  trimEnd (trimStart text)

/-- The maximal runs of characters that are not white space, in order. `word` is the run being
read, so far. -/
def wordsFrom (word : List Char) : List Char → List (List Char)
  | [] => if word.isEmpty then [] else [word]
  | c :: rest =>
    if isSpace c then
      if word.isEmpty then wordsFrom [] rest else word :: wordsFrom [] rest
    else wordsFrom (word ++ [c]) rest

/-- The maximal runs of characters that are not white space, in order. -/
def words (text : List Char) : List (List Char) :=
  wordsFrom [] text

end HamlTree.Text
