import StatusDigest.Pattern.Span

/-!
# Patterns

A pattern is a tree. It keeps what decides whether the pattern can be used, and where each part
stands; which texts a pattern describes is not kept, because logging never gets to match one.
-/

namespace StatusDigest.Pattern

/-! ## Flags -/

/-- A flag that a group can give or take. -/
inductive Flag where
  | ignoreCase
  | multiLine
  | dotMatchesAll
  | swapGreed
  | unicode
  | carriageReturn
  | loose
deriving DecidableEq, Repr

/-- The flag that a letter stands for. -/
def Flag.ofChar? : Char → Option Flag
  | 'i' => some .ignoreCase
  | 'm' => some .multiLine
  | 's' => some .dotMatchesAll
  | 'U' => some .swapGreed
  | 'u' => some .unicode
  | 'R' => some .carriageReturn
  | 'x' => some .loose
  | _ => none

/-- A flag of a group, or the sign from which on flags are taken. -/
structure FlagItem where
  span : Span
  flag : Option Flag
deriving DecidableEq, Repr

/-- The flags of a group, in order. -/
abbrev Flags := List FlagItem

/-- Whether flags give or take a flag, if they do either. `given` says whether the flags at the
start are given. -/
def Flags.setting? (wanted : Flag) (given : Bool) : Flags → Option Bool
  | [] => none
  | item :: items =>
    match item.flag with
    | none => setting? wanted false items
    | some flag => if flag = wanted then some given else setting? wanted given items

/-- What flags make of a flag that has a value already. -/
def Flags.update (flags : Flags) (wanted : Flag) (value : Bool) : Bool :=
  (flags.setting? wanted true).getD value

/-! ## Sets of characters -/

/-- A character that stands for itself. -/
structure Literal where
  span : Span
  char : Char
  /-- Whether it is written as the number of an octet. -/
  octet : Bool := false
deriving DecidableEq, Repr

/-- A set of characters in brackets, or a part of one. -/
inductive CharSet where
  | empty (span : Span)
  | literal (literal : Literal)
  | range (span : Span) (first last : Literal)
  /-- A set that has a name between colons. -/
  | named (span : Span) (negated : Bool)
  /-- A set that has a letter, such as that of the digits. -/
  | shorthand (span : Span) (negated : Bool)
  /-- The characters with a Unicode property. -/
  | property (span : Span)
  | bracketed (span : Span) (negated : Bool) (inner : CharSet)
  | union (span : Span) (items : List CharSet)
  /-- What two sets have in common, or in which way they differ. -/
  | operation (span : Span) (left right : CharSet)

/-- Where a set stands. -/
def CharSet.span : CharSet → Span
  | .literal l => l.span
  | .empty span | .range span .. | .named span _ | .shorthand span _ | .property span
  | .bracketed span .. | .union span _ | .operation span .. => span

/-! ## Trees -/

/-- A pattern, or a part of one. -/
inductive Tree where
  | empty (span : Span)
  /-- A group of flags alone, which holds up to the end of the group around it. -/
  | flags (span : Span) (flags : Flags)
  | literal (literal : Literal)
  /-- A dot. -/
  | anyChar (span : Span)
  /-- A condition on a place. Some conditions ask what a word is. -/
  | assertion (span : Span) (onWords : Bool)
  | shorthand (span : Span) (negated : Bool)
  | property (span : Span)
  | set (set : CharSet)
  | repetition (span : Span) (inner : Tree)
  | group (span : Span) (flags : Flags) (inner : Tree)
  | alternation (span : Span) (branches : List Tree)
  | concat (span : Span) (parts : List Tree)

/-- Where a tree stands. -/
def Tree.span : Tree → Span
  | .literal l => l.span
  | .set s => s.span
  | .empty span | .flags span _ | .anyChar span | .assertion span _ | .shorthand span _
  | .property span | .repetition span _ | .group span .. | .alternation span _
  | .concat span _ => span

end StatusDigest.Pattern
