import StatusDigest.Proofs.Json.Values
import Mathlib

/-!
# Reading values back

A value that is written and read again against its shape comes back, up to its floating-point
numbers.

* `Shape.Admits`: the values that a shape is for. The fields of a record stand in the order of the
  shape, and no two have the same name.
* `Shape.returned`: what comes back of a value. Doubles are reread, and what is written as `null`
  is absent where it is optional. Where it is not, nothing comes back.
* `Shape.read_write`: reading the text of a value gives what comes back of it, or says that the
  text is not what is asked for.
-/

namespace StatusDigest.Json

open Decimal

mutual

/-- Whether a shape is for a value. -/
def Shape.Admits : Shape → Value → Prop
  | .signed, .integer i => -2 ^ 63 ≤ i ∧ i < 2 ^ 63
  | .unsigned, .integer i => 0 ≤ i ∧ i < 2 ^ 64
  | .real, .real _ => True
  | .text, .text _ => True
  | .optional shape, value => value = .absent ∨ shape.Admits value
  | .record fields, .record values =>
    (fields.map Prod.fst).Nodup ∧ Shape.AdmitsAll fields values
  | _, _ => False

/-- Whether the fields of a record have the names and the shapes that are asked for. -/
def Shape.AdmitsAll : List (String × Shape) → List (String × Value) → Prop
  | [], [] => True
  | (name, shape) :: fields, (name', value) :: values =>
    name' = name ∧ shape.Admits value ∧ Shape.AdmitsAll fields values
  | _, _ => False

end

mutual

/-- What comes back of a value, if it does not stop its text from being read. -/
def Shape.returned : Shape → Value → Option Value
  | .optional shape, value => if value.isNull then some .absent else shape.returned value
  | .real, .real x => (reread x).map .real
  | .record fields, .record values => (Shape.returnedAll fields values).map .record
  | _, value => some value

/-- What comes back of the fields of a record. -/
def Shape.returnedAll : List (String × Shape) → List (String × Value) →
    Option (List (String × Value))
  | (_, shape) :: fields, (name, value) :: values =>
    (shape.returned value).bind fun value =>
      (Shape.returnedAll fields values).map fun values => (name, value) :: values
  | _, _ => some []

end

/-! ## Members of objects -/

theorem skipSpace_newLine (depth : ℕ) (rest : List Char) :
    skipSpace (newLine depth ++ rest) = skipSpace rest := by
  have hblank : ∀ c ∈ newLine depth, isSpace c = true := by
    intro c hc
    rcases List.mem_cons.1 hc with rfl | hc
    · decide
    · rw [List.eq_of_mem_replicate hc]
      decide
  exact List.dropWhile_append_of_pos hblank

section Members

variable {readers : List FieldReader} {found : List (String × Value)} {name : String}
  {value : Value} {depth : ℕ}

/-- The value of a member stands behind a colon and a blank. -/
theorem readMember_eq {field : FieldReader}
    (hfield : (readers.find? fun field => field.name = name) = some field)
    (hfresh : found.lookup name = none) {back : Option Value} {rest : List Char}
    (hread : ∀ text, skipSpace text = value.write depth ++ rest →
      field.read text = answer back rest) :
    readMember readers found name (':' :: ' ' :: (value.write depth ++ rest)) =
      answer (back.map fun value => (name, value) :: found) rest := by
  have hstart : skipSpace (' ' :: (value.write depth ++ rest)) = value.write depth ++ rest :=
    skipSpace_write value depth rest
  have hcolon : readColon (':' :: ' ' :: (value.write depth ++ rest)) =
      .ok (' ' :: (value.write depth ++ rest)) := rfl
  unfold readMember
  rw [hfield]
  simp only [hfresh, Option.isSome_none, Bool.false_eq_true, if_false, hcolon, hread _ hstart,
    bind, Except.bind]
  cases back <;> rfl

/-- A member is read behind its comma, which the first one lacks. -/
theorem readMembers_eq {back : Option (List (String × Value))} {rest : List Char}
    (hmember : readMember readers found name (':' :: ' ' :: (value.write depth ++ rest)) =
      answer back rest) (first : Bool) :
    readMembers readers first found
        ((if first then [] else [',']) ++ (Value.writeField depth (name, value) ++ rest)) =
      back.elim (.error .mismatched) fun found => readMembers readers false found rest := by
  obtain ⟨inner, hquote, hkey⟩ :=
    readString_quote name (':' :: ' ' :: (value.write depth ++ rest))
  have hfield : Value.writeField depth (name, value) ++ rest =
      newLine depth ++ '"' :: inner := by
    rw [← hquote, Value.writeField]
    simp only [List.append_assoc, List.cons_append, List.nil_append]
  have hopen : openKey (newLine depth ++ '"' :: inner) = .ok inner := by
    rw [openKey, skipSpace_newLine]
    rfl
  have hshorter : rest.length < ((if first then [] else [',']) ++
      (Value.writeField depth (name, value) ++ rest)).length := by
    rw [Value.writeField]
    simp only [List.length_append, List.length_cons]
    omega
  generalize htext : (if first then [] else [',']) ++
    (Value.writeField depth (name, value) ++ rest) = text at hshorter ⊢
  rw [hfield] at htext
  -- what is passed over before the key is a comma and a line feed, or the line feed alone
  have hskip : ∃ c after, skipSpace text = c :: after ∧ c ≠ '}' ∧ (first = false → c = ',') ∧
      openKey (if first then c :: after else after) = .ok inner := by
    cases first with
    | true =>
      refine ⟨'"', inner, ?_, by decide, by simp, rfl⟩
      rw [← htext]
      exact skipSpace_newLine depth _
    | false =>
      refine ⟨',', newLine depth ++ '"' :: inner, ?_, by decide, by simp, hopen⟩
      rw [← htext]
      rfl
  obtain ⟨c, after, hskip, hbrace, hcomma, hopen⟩ := hskip
  have hseparated : ¬ ((!first && decide (c ≠ ',')) = true) := by
    cases first <;> simp_all
  rw [readMembers]
  simp only [hskip]
  rw [if_neg hseparated]
  simp only [hopen, bind, Except.bind, hkey, hmember]
  cases back with
  | none => rfl
  | some found => simp only [answer, hshorter, dite_true, Option.elim_some]

end Members

/-! ## Records -/

theorem lookup_of_mem {found : List (String × Value)} (hnodup : (found.map Prod.fst).Nodup)
    {name : String} {value : Value} (h : (name, value) ∈ found) :
    found.lookup name = some value := by
  induction found with
  | nil => cases h
  | cons member found ih =>
    obtain ⟨name', value'⟩ := member
    rw [List.map_cons, List.nodup_cons] at hnodup
    rw [List.lookup_cons]
    rcases List.mem_cons.1 h with heq | hmem
    · obtain ⟨rfl, rfl⟩ := Prod.mk.inj heq
      simp
    · have hne : (name == name') = false := by
        rw [beq_eq_false_iff_ne]
        rintro rfl
        exact hnodup.1 (List.mem_map.2 ⟨_, hmem, rfl⟩)
      rw [hne]
      exact ih hnodup.2 hmem

/-- Fields are put into the order of the record. -/
theorem arrange_eq {found : List (String × Value)} {readers : List FieldReader}
    {back : List (String × Value)} (hnames : back.map Prod.fst = readers.map FieldReader.name)
    (hfound : ∀ name value, (name, value) ∈ back → found.lookup name = some value) :
    arrange found readers = .ok back := by
  induction readers generalizing back with
  | nil =>
    obtain rfl : back = [] := by simpa using hnames
    rfl
  | cons field readers ih =>
    obtain ⟨⟨name, value⟩, back, rfl, hname, hback⟩ := List.map_eq_cons_iff.1 hnames
    obtain rfl : name = field.name := hname
    rw [arrange, hfound _ _ List.mem_cons_self]
    dsimp only
    rw [ih hback fun name value h => hfound name value (List.mem_cons_of_mem _ h)]
    rfl

theorem map_name_fieldReaders (fields : List (String × Shape)) :
    (Shape.fieldReaders fields).map FieldReader.name = fields.map Prod.fst := by
  induction fields with
  | nil => rfl
  | cons field fields ih => rw [Shape.fieldReaders, List.map_cons, List.map_cons, ih]

/-- How a field of a record is read. -/
def Shape.fieldReader (name : String) (shape : Shape) : FieldReader :=
  { name, isOptional := shape.isOptional, read := shape.read }

theorem find?_fieldReaders {fields : List (String × Shape)} (hnodup : (fields.map Prod.fst).Nodup)
    {name : String} {shape : Shape} (h : (name, shape) ∈ fields) :
    ((Shape.fieldReaders fields).find? fun field => field.name = name) =
      some (Shape.fieldReader name shape) := by
  induction fields with
  | nil => cases h
  | cons field fields ih =>
    obtain ⟨name', shape'⟩ := field
    rw [List.map_cons, List.nodup_cons] at hnodup
    rw [Shape.fieldReaders]
    rcases List.mem_cons.1 h with heq | hmem
    · obtain ⟨rfl, rfl⟩ := Prod.mk.inj heq
      rw [List.find?_cons_of_pos (by simp)]
      rfl
    · have hne : name' ≠ name := by
        rintro rfl
        exact hnodup.1 (List.mem_map.2 ⟨_, hmem, rfl⟩)
      rw [List.find?_cons_of_neg (by simpa using hne), ih hnodup.2 hmem]

theorem map_fst_returnedAll {fields : List (String × Shape)} {values back : List (String × Value)}
    (h : Shape.AdmitsAll fields values) (hback : Shape.returnedAll fields values = some back) :
    back.map Prod.fst = fields.map Prod.fst := by
  induction fields generalizing values back with
  | nil =>
    cases values with
    | nil =>
      rw [Shape.returnedAll] at hback
      obtain rfl := Option.some.inj hback
      rfl
      all_goals simp
    | cons member values => exact absurd h (by simp [Shape.AdmitsAll])
  | cons field fields ih =>
    cases values with
    | nil => exact absurd h (by simp [Shape.AdmitsAll])
    | cons member values =>
      obtain ⟨name, shape⟩ := field
      obtain ⟨name', value⟩ := member
      rw [Shape.AdmitsAll] at h
      obtain ⟨rfl, -, htail⟩ := h
      rw [Shape.returnedAll] at hback
      obtain ⟨value', -, hback⟩ := Option.bind_eq_some_iff.1 hback
      obtain ⟨values', hvalues, rfl⟩ := Option.map_eq_some_iff.1 hback
      rw [List.map_cons, List.map_cons, ih htail hvalues]

/-- What is read of an object, if all its members are as they come back. -/
def conclude (readers : List FieldReader) (found : List (String × Value))
    (back : Option (List (String × Value))) (rest : List Char) :
    Except Fault (List (String × Value) × List Char) :=
  match back with
  | some back => (arrange (back.reverse ++ found) readers).map (·, rest)
  | none => .error .mismatched

/-- Whether the values of the given fields are read as they come back, behind what was found. -/
def ReadsMembers (readers : List FieldReader) (fields : List (String × Shape))
    (values : List (String × Value)) : Prop :=
  ∀ found depth rest, (∀ name ∈ fields.map Prod.fst, found.lookup name = none) →
    readMembers readers false found
        (Value.writeFields (depth + 1) values ++ (newLine depth ++ '}' :: rest)) =
      conclude readers found (Shape.returnedAll fields values) rest

theorem readMembers_brace {text rest : List Char} (htext : skipSpace text = '}' :: rest)
    (readers : List FieldReader) (first : Bool) (found : List (String × Value)) :
    readMembers readers first found text = (arrange found readers).map (·, rest) := by
  rw [readMembers]
  simp only [htext]

theorem readsMembers_nil (readers : List FieldReader) : ReadsMembers readers [] [] := by
  intro found depth rest _
  rw [Value.writeFields, List.nil_append, readMembers_brace (skipSpace_newLine depth _)]
  rfl

theorem closes_writeFields (values : List (String × Value)) (depth : ℕ) (rest : List Char) :
    Closes (Value.writeFields (depth + 1) values ++ (newLine depth ++ rest)) := by
  cases values with
  | nil => exact closes_newLine depth rest
  | cons member values => exact closes_comma _

/-- One member more is read if its value is, whether it is the first or not. -/
theorem ReadsMembers.cons {readers : List FieldReader} {fields : List (String × Shape)}
    {values : List (String × Value)} (htail : ReadsMembers readers fields values)
    {name : String} {shape : Shape} {value : Value} (hname : name ∉ fields.map Prod.fst)
    (hfind : (readers.find? fun field => field.name = name) = some (Shape.fieldReader name shape))
    (hread : ∀ depth text rest, skipSpace text = value.write depth ++ rest → Closes rest →
      shape.read text = answer (shape.returned value) rest)
    (first : Bool) {found : List (String × Value)} (depth : ℕ) (rest : List Char)
    (hfresh : ∀ other ∈ ((name, shape) :: fields).map Prod.fst, found.lookup other = none) :
    readMembers readers first found ((if first then [] else [',']) ++
        (Value.writeField (depth + 1) (name, value) ++
          (Value.writeFields (depth + 1) values ++ (newLine depth ++ '}' :: rest)))) =
      conclude readers found
        (Shape.returnedAll ((name, shape) :: fields) ((name, value) :: values)) rest := by
  have hmember := readMember_eq hfind (hfresh name List.mem_cons_self) fun text htext =>
    hread (depth + 1) text _ htext (closes_writeFields values depth ('}' :: rest))
  rw [readMembers_eq hmember first, Shape.returnedAll]
  cases hback : shape.returned value with
  | none => rfl
  | some back =>
    -- the names of the other fields are still to come
    have hfresh' : ∀ name' ∈ fields.map Prod.fst, ((name, back) :: found).lookup name' = none := by
      intro name' hmem
      have hne : (name' == name) = false := by
        rw [beq_eq_false_iff_ne]
        rintro rfl
        exact hname hmem
      rw [List.lookup_cons, hne]
      exact hfresh name' (List.mem_cons_of_mem _ hmem)
    show readMembers readers false ((name, back) :: found) _ = _
    rw [htail _ depth rest hfresh']
    cases Shape.returnedAll fields values with
    | none => rfl
    | some values =>
      show (arrange (values.reverse ++ (name, back) :: found) readers).map _ =
        (arrange (((name, back) :: values).reverse ++ found) readers).map _
      rw [List.reverse_cons, List.append_assoc, List.singleton_append]

/-- All members that were found make up the record. -/
theorem conclude_eq_answer {fields : List (String × Shape)} {values : List (String × Value)}
    (hnodup : (fields.map Prod.fst).Nodup) (h : Shape.AdmitsAll fields values)
    (rest : List Char) :
    conclude (Shape.fieldReaders fields) [] (Shape.returnedAll fields values) rest =
      answer (Shape.returnedAll fields values) rest := by
  cases hback : Shape.returnedAll fields values with
  | none => rfl
  | some back =>
    have hnames := map_fst_returnedAll h hback
    have hreverse : ((back.reverse).map Prod.fst).Nodup := by
      rw [List.map_reverse, List.nodup_reverse, hnames]
      exact hnodup
    rw [conclude, List.append_nil, arrange_eq (hnames.trans (map_name_fieldReaders fields).symm)
      fun name value hmem => lookup_of_mem hreverse (List.mem_reverse.2 hmem)]
    rfl

/-! ## Values -/

/-- What is written as `null` is absent where it may be. -/
theorem write_of_isNull {value : Value} (h : value.isNull = true) (depth : ℕ) :
    value.write depth = nullText := by
  cases value with
  | absent => rw [Value.write]
  | real x =>
    have hx : ¬ x.isFinite = true := by simpa [Value.isNull] using h
    rw [Value.write, realText_of_not_isFinite hx]
  | integer i => cases h
  | text s => cases h
  | record fields => cases h

theorem read_optional {read : Reader} {value : Value} {depth : ℕ} {text rest : List Char}
    (htext : skipSpace text = value.write depth ++ rest) {back : Option Value}
    (hread : value.isNull = false → read text = answer back rest) :
    readOptional read text = answer (if value.isNull then some .absent else back) rest := by
  cases hnull : value.isNull with
  | true =>
    rw [write_of_isNull hnull] at htext
    rw [readOptional, htext]
    rfl
  | false =>
    obtain ⟨c, more, hcons, -, hletter⟩ := write_eq_cons value depth
    have hne : c ≠ 'n' := by
      rintro rfl
      exact absurd (hletter rfl) (by simp [hnull])
    rw [hcons, List.cons_append] at htext
    rw [readOptional, htext, if_neg Bool.false_ne_true, ← hread hnull]
    split
    · rename_i heq
      exact absurd (List.cons.inj heq).1 hne
    · rfl

/-- A record is read behind its brace. -/
theorem readRecord_of_members {readers : List FieldReader} {text inner rest : List Char}
    {back : Option (List (String × Value))} (htext : skipSpace text = '{' :: inner)
    (hmembers : readMembers readers true [] inner = answer back rest) :
    readRecord readers text = answer (back.map .record) rest := by
  rw [readRecord, htext]
  show (readMembers readers true [] inner).map _ = _
  rw [hmembers]
  cases back <;> rfl

mutual

/-- The text of a value that a shape is for is read as what comes back of the value. -/
theorem Shape.read_write (shape : Shape) (value : Value) (h : shape.Admits value) (depth : ℕ)
    (text rest : List Char) (htext : skipSpace text = value.write depth ++ rest)
    (hrest : Closes rest) : shape.read text = answer (shape.returned value) rest := by
  -- the induction is on the shape, and for records on the fields that are still to come
  match shape, value, h with
  | .signed, .integer i, h =>
    rw [Shape.Admits] at h
    rw [Value.write] at htext
    rw [Shape.read, read_signed h.1 h.2 htext hrest, Shape.returned]
    · rfl
    all_goals simp
  | .unsigned, .integer i, h =>
    rw [Shape.Admits] at h
    rw [Value.write] at htext
    rw [Shape.read, read_unsigned h.1 h.2 htext hrest, Shape.returned]
    · rfl
    all_goals simp
  | .real, .real x, h =>
    rw [Value.write] at htext
    rw [Shape.read, read_real htext hrest, Shape.returned]
  | .text, .text s, h =>
    rw [Value.write] at htext
    rw [Shape.read, read_text htext, Shape.returned]
    · rfl
    all_goals simp
  | .optional shape, value, h =>
    -- what is written as `null` never reaches the reader of what is there
    rw [Shape.Admits] at h
    rw [Shape.read, Shape.returned]
    refine read_optional htext fun hnull => ?_
    have hadmits : shape.Admits value := by
      rcases h with rfl | h
      · cases hnull
      · exact h
    exact Shape.read_write shape value hadmits depth text rest htext hrest
  | .record [], .record [], h =>
    rw [Value.write] at htext
    rw [Shape.read, Shape.returned]
    refine readRecord_of_members htext ?_
    exact readMembers_brace rfl [] true []
  | .record ((name, shape) :: fields), .record ((name', value) :: values), h =>
    rw [Shape.Admits] at h
    obtain ⟨hnodup, hadmits⟩ := h
    have hfind : ∀ other shape', (other, shape') ∈ (name, shape) :: fields → _ :=
      fun _ _ => find?_fieldReaders hnodup
    have hreverse := conclude_eq_answer hnodup hadmits rest
    rw [Shape.AdmitsAll] at hadmits
    obtain ⟨rfl, hvalue, htail⟩ := hadmits
    -- the first member lacks the comma, so that it is read apart from the others
    simp only [List.map_cons, List.nodup_cons] at hnodup
    have hmembers := Shape.readsMembers fields values htail _ hnodup.2
      fun name shape hmem => hfind name shape (List.mem_cons_of_mem _ hmem)
    have hread : readMembers _ true [] _ = _ := hmembers.cons hnodup.1
      (hfind _ _ List.mem_cons_self) (Shape.read_write shape value hvalue) true depth rest
      fun _ _ => rfl
    rw [hreverse] at hread
    rw [Value.write] at htext
    rw [Shape.read, Shape.returned]
    refine readRecord_of_members ?_ hread
    rw [htext]
    simp

/-- So are the values of the fields of a record. -/
theorem Shape.readsMembers (fields : List (String × Shape)) (values : List (String × Value))
    (h : Shape.AdmitsAll fields values) (readers : List FieldReader)
    (hnodup : (fields.map Prod.fst).Nodup)
    (hfind : ∀ name shape, (name, shape) ∈ fields →
      (readers.find? fun field => field.name = name) = some (Shape.fieldReader name shape)) :
    ReadsMembers readers fields values := by
  match fields, values, h with
  | [], [], h => exact readsMembers_nil readers
  | (name, shape) :: fields, (name', value) :: values, h =>
    rw [Shape.AdmitsAll] at h
    obtain ⟨rfl, hvalue, htail⟩ := h
    simp only [List.map_cons, List.nodup_cons] at hnodup
    have hmembers := Shape.readsMembers fields values htail readers hnodup.2
      fun name shape hmem => hfind name shape (List.mem_cons_of_mem _ hmem)
    intro found depth rest hfresh
    have hread := hmembers.cons hnodup.1 (hfind _ _ List.mem_cons_self)
      (Shape.read_write shape value hvalue) false depth rest hfresh
    rw [Value.writeFields]
    simpa using hread

end

/-- A value that a shape is for comes back from its text. -/
theorem Shape.ofText_render {shape : Shape} {value : Value} (h : shape.Admits value) :
    shape.ofText value.render = (shape.returned value).elim (.error .mismatched) .ok := by
  apply Shape.ofText_of_read
  rw [toList_render, ← List.append_nil (value.write 0)]
  exact Shape.read_write shape value h 0 _ [] (skipSpace_write value 0 []) closes_nil

end StatusDigest.Json
