import StatusDigest.Dump.Reader
import StatusDigest.Proofs.Text.Pieces
import Mathlib

/-!
# Lines and what they say

The lines of a source and their meaning, described without the recursion that finds them:

* `linesOf` cuts octets at every line feed; `Source.lines_eq_linesOf` shows that a source that
  ends well delivers these lines, however its chunks are cut;
* `Opens`, `Closes` and `Assigns` say of a stripped line that it is a marker, a lone brace or a
  field. `Line.ofText_eq_opening_iff` and its companions show that `Line.ofText` decides them.
-/

namespace StatusDigest.Dump

/-! ## Lines of octets -/

/-- The octets between line feeds. A line feed at the end ends the last line and starts no
other. -/
def linesOf (octets : List UInt8) : List (List UInt8) :=
  let pieces := octets.splitOn lineFeed
  if pieces.getLast? = some [] then pieces.dropLast else pieces

/-- The stripped texts of the lines. -/
def textsOf (octets : List UInt8) : List (List Char) :=
  (linesOf octets).map lineText

/-- Octets that follow go on with the unfinished line. -/
theorem splitOn_append (octets more : List UInt8) :
    (octets ++ more).splitOn lineFeed =
      (cutLines octets).1 ++ ((cutLines octets).2 ++ more).splitOn lineFeed := by
  -- an octet ends a line of its own, or goes in front of the first line of the rest
  induction octets with
  | nil => rfl
  | cons octet rest ih =>
    by_cases hfeed : octet = lineFeed
    · subst hfeed
      simp [cutLines, List.splitOn_cons_eq_if_modifyHead, ih]
    · rw [List.cons_append, List.splitOn_cons_eq_if_modifyHead, if_neg (by simpa using hfeed), ih]
      cases hcomplete : (cutLines rest).1 with
      | nil =>
        simp [cutLines, hfeed, hcomplete, List.splitOn_cons_eq_if_modifyHead]
      | cons line complete => simp [cutLines, hfeed, hcomplete]

theorem lineFeed_not_mem_cutLines (octets : List UInt8) : lineFeed ∉ (cutLines octets).2 := by
  induction octets with
  | nil => simp [cutLines]
  | cons octet rest ih =>
    by_cases hfeed : octet = lineFeed
    · simpa [cutLines, hfeed] using ih
    · cases hcomplete : (cutLines rest).1 with
      | nil => simpa [cutLines, hfeed, hcomplete, eq_comm] using ih
      | cons line complete => simpa [cutLines, hfeed, hcomplete] using ih

/-- Chunks are cut as if they had arrived at once. -/
theorem gatherLines_eq_splitOn (unfinished : List UInt8) (chunks : List (List UInt8))
    (hunfinished : lineFeed ∉ unfinished) :
    (gatherLines unfinished chunks).1 ++ [(gatherLines unfinished chunks).2] =
      (unfinished ++ chunks.flatten).splitOn lineFeed := by
  -- what a chunk leaves unfinished never holds a line feed, and stands in front of the next one
  induction chunks generalizing unfinished with
  | nil => simp [gatherLines, List.splitOn_eq_singleton hunfinished]
  | cons chunk rest ih =>
    have hrest := ih _ (lineFeed_not_mem_cutLines (unfinished ++ chunk))
    rw [List.flatten_cons, ← List.append_assoc, splitOn_append, ← hrest]
    simp [gatherLines]

/-- A source that ends well delivers the lines of its octets, however they arrive. -/
theorem Source.lines_eq_linesOf {source : Source} (hends : source.failure = none) :
    source.lines = linesOf source.bytes := by
  have hgather := gatherLines_eq_splitOn [] source.chunks (by simp)
  rw [List.nil_append] at hgather
  simp only [Source.lines, linesOf, Source.bytes, ← hgather, hends]
  by_cases hlast : (gatherLines [] source.chunks).2 = []
  · simp [hlast]
  · simp [hlast]

/-- A reader of such a source gives events only. -/
theorem Reader.items_ofSource {source : Source} (hends : source.failure = none) :
    (Reader.ofSource source).items = (Reader.ofSource source).events.map .ok := by
  have hfailure : (Reader.ofSource source).failure = none := by simp [Reader.ofSource, hends]
  simp [Reader.items, hfailure]

/-! ## What a line says -/

/-- The line is a marker of the kind, in one of its spellings. -/
def Opens (text : List Char) (kind : Kind) : Prop :=
  String.ofList text ∈ kind.markers

instance (text : List Char) (kind : Kind) : Decidable (Opens text kind) :=
  inferInstanceAs (Decidable (_ ∈ _))

/-- The line is a marker of some kind. -/
def IsMarker (text : List Char) : Prop :=
  ∃ kind, Opens text kind

/-- The line is a lone closing brace. -/
def Closes (text : List Char) : Prop :=
  String.ofList text = "\x7d"

/-- The line is no comment, has the key before its first equals sign, and has the value, which is
not empty, behind that sign. -/
structure Assigns (text : List Char) (key value : String) : Prop where
  uncommented : text.head? ≠ some '#'
  key_ends : '=' ∉ key.toList
  filled : value ≠ ""
  cut : text = key.toList ++ '=' :: value.toList

theorem Kind.ofMarker?_eq_some_iff {text : List Char} {kind : Kind} :
    Kind.ofMarker? text = some kind ↔ Opens text kind := by
  constructor
  · intro h
    have hany := List.find?_some h
    simp only [List.any_eq_true, decide_eq_true_eq] at hany
    obtain ⟨marker, hmem, rfl⟩ := hany
    simpa [Opens] using hmem
  · intro h
    have htext : text = (String.ofList text).toList := String.toList_ofList.symm
    unfold Opens at h
    generalize String.ofList text = marker at h htext
    subst htext
    cases kind <;> simp only [Kind.markers, List.mem_cons, List.not_mem_nil, or_false] at h
    · subst h; decide
    · rcases h with rfl | rfl <;> decide
    · rcases h with rfl | rfl <;> decide
    · rcases h with rfl | rfl <;> decide

/-- A line is a marker of one kind only. -/
theorem Opens.unique {text : List Char} {kind kind' : Kind} (h : Opens text kind)
    (h' : Opens text kind') : kind = kind' := by
  have hsome := Kind.ofMarker?_eq_some_iff.2 h
  rw [Kind.ofMarker?_eq_some_iff.2 h'] at hsome
  exact (Option.some.inj hsome).symm

theorem assignment?_eq_some_iff {text : List Char} {key value : String} :
    assignment? text = some (key, value) ↔
      '=' ∉ key.toList ∧ value ≠ "" ∧ text = key.toList ++ '=' :: value.toList := by
  unfold assignment?
  constructor
  · intro h
    split at h
    · rename_i before c after hcut
      obtain ⟨hbefore, rfl⟩ := Text.cutFirst_eq_some_iff.1 hcut
      obtain ⟨rfl, rfl⟩ := Prod.mk.inj (Option.some.inj h)
      simpa using hbefore
    · cases h
  · rintro ⟨hkey, hvalue, rfl⟩
    rw [Text.cutFirst_append hkey]
    cases hlist : value.toList with
    | nil => exact absurd (String.toList_eq_nil_iff.1 hlist) hvalue
    | cons c rest => simp [← hlist]

/-- The characters that make a line a comment, a brace or a field are not those of a marker. -/
theorem Opens.shape {text : List Char} {kind : Kind} (h : Opens text kind) :
    isIdle text = false ∧ ¬ Closes text ∧ '=' ∉ text := by
  have htext : text = (String.ofList text).toList := String.toList_ofList.symm
  unfold Opens at h
  unfold Closes
  generalize String.ofList text = marker at h htext
  subst htext
  cases kind <;> simp only [Kind.markers, List.mem_cons, List.not_mem_nil, or_false] at h
  · subst h; decide
  · rcases h with rfl | rfl <;> decide
  · rcases h with rfl | rfl <;> decide
  · rcases h with rfl | rfl <;> decide

theorem closes_iff {text : List Char} : Closes text ↔ text = ['}'] := by
  unfold Closes
  constructor
  · intro h
    rw [← String.toList_ofList (l := text), h]
    rfl
  · rintro rfl
    rfl

theorem Assigns.mem {text : List Char} {key value : String} (h : Assigns text key value) :
    '=' ∈ text := by
  rw [h.cut]
  simp

/-- A field line has one key and one value. -/
theorem Assigns.unique {text : List Char} {key key' value value' : String}
    (h : Assigns text key value) (h' : Assigns text key' value') : key = key' ∧ value = value' := by
  have hcut := assignment?_eq_some_iff.2 ⟨h.key_ends, h.filled, h.cut⟩
  rw [assignment?_eq_some_iff.2 ⟨h'.key_ends, h'.filled, h'.cut⟩] at hcut
  obtain ⟨rfl, rfl⟩ := Prod.mk.inj (Option.some.inj hcut)
  exact ⟨rfl, rfl⟩

/-- A field line is never read as anything else. -/
theorem Assigns.shape {text : List Char} {key value : String} (h : Assigns text key value) :
    isIdle text = false ∧ Kind.ofMarker? text = none ∧ ¬ Closes text := by
  refine ⟨?_, ?_, ?_⟩
  · have hne : text ≠ [] := by
      rintro rfl
      exact absurd h.mem List.not_mem_nil
    simp [isIdle, hne, h.uncommented]
  · cases hmarker : Kind.ofMarker? text with
    | none => rfl
    | some kind => exact absurd h.mem (Kind.ofMarker?_eq_some_iff.1 hmarker).shape.2.2
  · intro hcloses
    have hmem := h.mem
    rw [closes_iff.1 hcloses] at hmem
    simp at hmem

/-! ## The meaning that is read -/

theorem Line.ofText_eq_opening_iff {text : List Char} {kind : Kind} :
    Line.ofText text = .opening kind ↔ Opens text kind := by
  constructor
  · intro h
    unfold Line.ofText at h
    split at h
    · cases h
    split at h
    · rename_i found hfound
      obtain rfl : found = kind := Line.opening.inj h
      exact Kind.ofMarker?_eq_some_iff.1 hfound
    split at h
    · cases h
    · split at h <;> cases h
  · intro h
    simp [Line.ofText, h.shape.1, Kind.ofMarker?_eq_some_iff.2 h]

theorem Line.ofText_eq_closing_iff {text : List Char} :
    Line.ofText text = .closing ↔ Closes text := by
  rw [closes_iff]
  constructor
  · intro h
    unfold Line.ofText at h
    split at h
    · cases h
    split at h
    · cases h
    split at h
    · assumption
    · split at h <;> cases h
  · rintro rfl
    rfl

theorem Line.ofText_eq_field_iff {text : List Char} {key value : String} :
    Line.ofText text = .field key value ↔ Assigns text key value := by
  constructor
  · intro h
    unfold Line.ofText at h
    split at h
    · cases h
    rename_i hidle
    split at h
    · cases h
    split at h
    · cases h
    split at h
    · rename_i key' value' hcut
      obtain ⟨rfl, rfl⟩ := Line.field.inj h
      obtain ⟨hkey, hvalue, htext⟩ := assignment?_eq_some_iff.1 hcut
      have huncommented : text.head? ≠ some '#' := by
        intro hhead
        simp [isIdle, hhead] at hidle
      exact ⟨huncommented, hkey, hvalue, htext⟩
    · cases h
  · intro h
    obtain ⟨hidle, hmarker, hcloses⟩ := h.shape
    rw [closes_iff] at hcloses
    have hcut := assignment?_eq_some_iff.2 ⟨h.key_ends, h.filled, h.cut⟩
    simp [Line.ofText, hidle, hmarker, hcloses, hcut]

example : Line.ofText "host \x7b=a=\x7d".toList = .field "host \x7b" "a=\x7d" := by decide

end StatusDigest.Dump
