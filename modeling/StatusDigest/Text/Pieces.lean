/-!
# Cutting a sequence at a separator

* `pieces` cuts at every occurrence and keeps empty pieces, so that a sequence with `n`
  separators has `n + 1` pieces.
* `cutFirst` cuts at the first occurrence only, and `cutAtWord` at the first occurrence of a word
  of several elements.
* `trimEnds` removes a run of unwanted elements from both ends.

All of them work on any list, because lines are cut in bytes and fields are cut in characters.
-/

namespace StatusDigest.Text

variable {α : Type}

/-- The pieces between the separators, in order. There is always at least one. -/
def pieces [DecidableEq α] (separator : α) : List α → List (List α)
  | [] => [[]]
  | x :: rest =>
    if x = separator then
      [] :: pieces separator rest
    else
      match pieces separator rest with
      | [] => [[x]]
      | piece :: more => (x :: piece) :: more

/-- What stands before and after the first separator, if there is one. -/
def cutFirst [DecidableEq α] (separator : α) : List α → Option (List α × List α)
  | [] => none
  | x :: rest =>
    if x = separator then
      some ([], rest)
    else
      (cutFirst separator rest).map fun (before, after) => (x :: before, after)

/-- What stands before and after the first occurrence of a word, if it occurs. -/
def cutAtWord [DecidableEq α] (word : List α) : List α → Option (List α × List α)
  | [] => (word.isPrefixOf? []).map fun after => ([], after)
  | x :: rest =>
    match word.isPrefixOf? (x :: rest) with
    | some after => some ([], after)
    | none => (cutAtWord word rest).map fun (before, after) => (x :: before, after)

/-- The elements without the runs of `unwanted` ones at both ends. -/
def trimEnds (unwanted : α → Bool) (xs : List α) : List α :=
  ((xs.dropWhile unwanted).reverse.dropWhile unwanted).reverse

end StatusDigest.Text
