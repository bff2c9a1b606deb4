import StatusDigest.Json.Token

/-!
# Passing over JSON values

A value that nobody asks for is passed over. It has to be JSON, but numbers may have any size and
surrogates in strings need not come in pairs.

Arrays and objects are passed over member by member. After each member the text must have become
shorter, which always holds because no value is empty.
-/

namespace StatusDigest.Json

theorem length_skipSpace_le (text : List Char) : (skipSpace text).length ≤ text.length :=
  (List.dropWhile_suffix isSpace).length_le

/-- A text whose blanks are followed by a character is longer than what follows that one. -/
theorem length_lt_of_skipSpace {text rest : List Char} {c : Char}
    (h : skipSpace text = c :: rest) : rest.length < text.length := by
  have := length_skipSpace_le text
  rw [h] at this
  exact this

/-- Passes over a value that starts with the given character and is neither array nor object. -/
def skipScalar (c : Char) (rest : List Char) : Except Fault (List Char) :=
  if c = '"' then skipString rest
  else if c = 'n' then readWord ['u', 'l', 'l'] rest
  else if c = 't' then readWord ['r', 'u', 'e'] rest
  else if c = 'f' then readWord ['a', 'l', 's', 'e'] rest
  else if c = '-' then skipNumber rest
  else if c.isDigit then skipNumber (c :: rest)
  else .error .malformed

/-- Reads a colon. -/
def readColon (text : List Char) : Except Fault (List Char) :=
  match skipSpace text with
  | [] => .error .truncated
  | ':' :: rest => .ok rest
  | _ => .error .malformed

/-- Reads the opening quote of a key. -/
def openKey (text : List Char) : Except Fault (List Char) :=
  match skipSpace text with
  | [] => .error .truncated
  | '"' :: rest => .ok rest
  | _ => .error .malformed

mutual

/-- Passes over a value. -/
def skipValue (text : List Char) : Except Fault (List Char) :=
  match _h : skipSpace text with
  | [] => .error .truncated
  | '[' :: rest => skipItems true rest
  | '{' :: rest => skipMembers true rest
  | c :: rest => skipScalar c rest
termination_by (text.length, 0)
decreasing_by
  all_goals exact .left _ _ (length_lt_of_skipSpace _h)

/-- Passes over the rest of an array. `first` says that no item has been read yet. -/
def skipItems (first : Bool) (text : List Char) : Except Fault (List Char) :=
  match _h : skipSpace text with
  | [] => .error .truncated
  | ']' :: rest => .ok rest
  | c :: rest =>
    if !first && c ≠ ',' then .error .malformed
    else
      match skipValue (if first then c :: rest else rest) with
      | .error fault => .error fault
      | .ok after =>
        if _shorter : after.length < text.length then skipItems false after
        else .error .malformed
termination_by (text.length, 1)
decreasing_by
  · have := length_skipSpace_le text
    have := length_lt_of_skipSpace _h
    split
    · rcases Nat.lt_or_eq_of_le (Nat.succ_le_of_lt this) with h | h
      · exact .left _ _ h
      · rw [show text.length = (c :: rest).length from h.symm]
        exact .right _ (by decide)
    · exact .left _ _ this
  · exact .left _ _ _shorter

/-- Passes over the rest of an object. `first` says that no member has been read yet. -/
def skipMembers (first : Bool) (text : List Char) : Except Fault (List Char) :=
  match _h : skipSpace text with
  | [] => .error .truncated
  | '}' :: rest => .ok rest
  | c :: rest =>
    if !first && c ≠ ',' then .error .malformed
    else
      match openKey (if first then c :: rest else rest) >>= skipString >>= readColon with
      | .error fault => .error fault
      | .ok value =>
        if _before : value.length < text.length then
          match skipValue value with
          | .error fault => .error fault
          | .ok after =>
            if _shorter : after.length < text.length then skipMembers false after
            else .error .malformed
        else .error .malformed
termination_by (text.length, 1)
decreasing_by
  · exact .left _ _ _before
  · exact .left _ _ _shorter

end

end StatusDigest.Json
