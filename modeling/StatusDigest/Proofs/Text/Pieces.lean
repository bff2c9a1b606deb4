import StatusDigest.Text.Pieces
import Mathlib

/-!
# Cutting and trimming, seen from the result

What `cutFirst` and `trimEnds` return is described without their recursion:

* `cutFirst_eq_some_iff`: the parts put together give the whole, and the first part holds no
  separator, so that the cut is at the first one;
* `trimEnds_pad`: unwanted elements around a sequence make no difference to what is left of it;
* `trimEnds_eq_self`: a sequence whose ends are wanted stays as it is;
* `head?_trimEnds`, `getLast?_trimEnds`: the ends of what is left are wanted.

`splitOn_ended` cuts a text into the lines that it was put together from, and `pieces_eq_splitOn`
says that cutting at every separator is what lists offer for it; `subset_of_mem_splitOn` says that
the pieces hold nothing new.
-/

namespace StatusDigest.Text

variable {α : Type}

/-! ## Cutting at the first separator -/

theorem cutFirst_append [DecidableEq α] {separator : α} {before : List α}
    (hbefore : separator ∉ before) (after : List α) :
    cutFirst separator (before ++ separator :: after) = some (before, after) := by
  induction before with
  | nil => simp [cutFirst]
  | cons x before ih =>
    have hx : x ≠ separator := fun h => hbefore (by simp [h])
    have hrest : separator ∉ before := fun h => hbefore (by simp [h])
    simp [cutFirst, hx, ih hrest]

/-- The cut is at the first separator, and nothing is lost but that separator. -/
theorem cutFirst_eq_some_iff [DecidableEq α] {separator : α} {xs before after : List α} :
    cutFirst separator xs = some (before, after) ↔
      separator ∉ before ∧ xs = before ++ separator :: after := by
  constructor
  · intro h
    induction xs generalizing before with
    | nil => simp [cutFirst] at h
    | cons x rest ih =>
      -- either the cut is here, and nothing stands before it, or it is in the rest
      by_cases hx : x = separator
      · obtain ⟨rfl, rfl⟩ : before = [] ∧ rest = after := by simpa [cutFirst, hx, eq_comm] using h
        simp [hx]
      · simp only [cutFirst, hx, if_false, Option.map_eq_some_iff, Prod.exists] at h
        obtain ⟨start, tail, hcut, heq⟩ := h
        obtain ⟨rfl, rfl⟩ : x :: start = before ∧ tail = after := by simpa using heq
        obtain ⟨hstart, rfl⟩ := ih hcut
        refine ⟨?_, rfl⟩
        intro hmem
        rcases List.mem_cons.1 hmem with h | h
        · exact hx h.symm
        · exact hstart h
  · rintro ⟨hbefore, rfl⟩
    exact cutFirst_append hbefore after

/-! ## Cutting at every separator -/

theorem pieces_eq_splitOn [DecidableEq α] (separator : α) (xs : List α) :
    pieces separator xs = xs.splitOn separator := by
  induction xs with
  | nil => rfl
  | cons x rest ih =>
    rw [List.splitOn_cons_eq_if_modifyHead, pieces, ih]
    by_cases hx : x = separator
    · simp [hx]
    · -- there is a first piece, and the element goes to its front
      obtain ⟨piece, more, hsplit⟩ :=
        List.exists_cons_of_ne_nil (List.splitOn_ne_nil separator rest)
      simp [hx, hsplit]

/-- The pieces of a sequence hold nothing but its elements. -/
theorem subset_of_mem_splitOn [DecidableEq α] {separator : α} {xs piece : List α}
    (h : piece ∈ xs.splitOn separator) : piece ⊆ xs := by
  induction xs generalizing piece with
  | nil =>
    obtain rfl : piece = [] := by simpa using h
    exact List.nil_subset _
  | cons x rest ih =>
    rw [List.splitOn_cons_eq_if_modifyHead] at h
    split at h
    · rcases List.mem_cons.1 h with rfl | hmem
      · exact List.nil_subset _
      · exact List.subset_cons_of_subset x (ih hmem)
    · -- the element goes to the front of the first piece
      obtain ⟨first, more, hsplit⟩ :=
        List.exists_cons_of_ne_nil (List.splitOn_ne_nil separator rest)
      rw [hsplit] at h ih
      rcases List.mem_cons.1 h with rfl | hmem
      · exact List.cons_subset_cons x (ih List.mem_cons_self)
      · exact List.subset_cons_of_subset x (ih (List.mem_cons_of_mem _ hmem))

/-! ## Lines put together -/

/-- Ending every line is putting the lines between separators, with an empty one behind the last. -/
theorem flatMap_ended (separator : α) (lines : List (List α)) :
    lines.flatMap (· ++ [separator]) = [separator].intercalate (lines ++ [[]]) := by
  induction lines with
  | nil => rfl
  | cons line rest ih =>
    rw [List.flatMap_cons, ih]
    cases rest <;> simp

/-- Lines that have been ended and put together are found again, and an empty one behind them. -/
theorem splitOn_ended [DecidableEq α] {separator : α} {lines : List (List α)}
    (hlines : ∀ line ∈ lines, separator ∉ line) :
    (lines.flatMap (· ++ [separator])).splitOn separator = lines ++ [[]] := by
  rw [flatMap_ended]
  apply List.splitOn_intercalate
  · intro line hline
    rcases List.mem_append.1 hline with hmem | hmem
    · exact hlines line hmem
    · rw [List.mem_singleton.1 hmem]
      exact List.not_mem_nil
  · simp

/-! ## Trimming both ends -/

/-- Unwanted elements put around a sequence make no difference to what trimming leaves. -/
theorem trimEnds_pad {unwanted : α → Bool} {left right : List α}
    (hleft : ∀ x ∈ left, unwanted x = true) (hright : ∀ x ∈ right, unwanted x = true)
    (xs : List α) : trimEnds unwanted (left ++ xs ++ right) = trimEnds unwanted xs := by
  unfold trimEnds
  rw [List.append_assoc, List.dropWhile_append_of_pos hleft, List.dropWhile_append]
  have hback : ∀ x ∈ right.reverse, unwanted x = true := by
    intro x hx
    exact hright x (List.mem_reverse.1 hx)
  split
  · -- nothing of the sequence is wanted, so that nothing is left in either case
    rename_i hempty
    have hxs : xs.dropWhile unwanted = [] := List.isEmpty_iff.1 hempty
    have hright' : (right ++ []).dropWhile unwanted = [] := List.dropWhile_append_of_pos hright
    have hnone : right.dropWhile unwanted = [] := by simpa using hright'
    rw [hxs, hnone]
  · rw [List.reverse_append, List.dropWhile_append_of_pos hback]

theorem dropWhile_eq_self_of_head {p : α → Bool} {xs : List α}
    (hhead : ∀ x, xs.head? = some x → p x = false) : xs.dropWhile p = xs := by
  cases xs with
  | nil => rfl
  | cons x rest =>
    have hx : p x = false := hhead x rfl
    simp [hx]

/-- A sequence that starts and ends with wanted elements is not trimmed. -/
theorem trimEnds_eq_self {unwanted : α → Bool} {xs : List α}
    (hhead : ∀ x, xs.head? = some x → unwanted x = false)
    (hlast : ∀ x, xs.getLast? = some x → unwanted x = false) :
    trimEnds unwanted xs = xs := by
  have hback : ∀ x, xs.reverse.head? = some x → unwanted x = false := by
    intro x hx
    exact hlast x (by simpa using hx)
  rw [trimEnds, dropWhile_eq_self_of_head hhead, dropWhile_eq_self_of_head hback,
    List.reverse_reverse]

theorem head?_dropWhile {p : α → Bool} {xs : List α} {x : α}
    (h : (xs.dropWhile p).head? = some x) : p x = false := by
  have hhead := List.head?_dropWhile_not p xs
  rwa [h] at hhead

/-- What is left starts with a wanted element. -/
theorem head?_trimEnds {unwanted : α → Bool} {xs : List α} {x : α}
    (h : (trimEnds unwanted xs).head? = some x) : unwanted x = false := by
  -- trimming the right end leaves the left end as it is
  have hprefix : trimEnds unwanted xs <+: xs.dropWhile unwanted := by
    rw [← List.reverse_suffix, trimEnds, List.reverse_reverse]
    exact List.dropWhile_suffix unwanted
  obtain ⟨cut, hcut⟩ := hprefix
  have hhead : (xs.dropWhile unwanted).head? = some x := by
    rw [← hcut, List.head?_append, h, Option.some_or]
  exact head?_dropWhile hhead

/-- What is left ends with a wanted element. -/
theorem getLast?_trimEnds {unwanted : α → Bool} {xs : List α} {x : α}
    (h : (trimEnds unwanted xs).getLast? = some x) : unwanted x = false := by
  rw [trimEnds, List.getLast?_reverse] at h
  exact head?_dropWhile h

/-- Trimming adds nothing. -/
theorem mem_of_mem_trimEnds {unwanted : α → Bool} {xs : List α} {x : α}
    (h : x ∈ trimEnds unwanted xs) : x ∈ xs := by
  rw [trimEnds, List.mem_reverse] at h
  have hmem : x ∈ xs.dropWhile unwanted :=
    List.mem_reverse.1 ((List.dropWhile_sublist unwanted).subset h)
  exact (List.dropWhile_sublist unwanted).subset hmem

end StatusDigest.Text
