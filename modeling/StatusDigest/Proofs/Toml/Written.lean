import StatusDigest.Proofs.Toml.Spelling
import StatusDigest.Toml.Document
import Mathlib

/-!
# Written documents

A document of texts is written table by table: a header in a line of its own, and below it a line
for each entry, with the text in double quotes. Blanks may stand around the parts of a line, and
empty lines between the lines. Such a document is read as the tables that were written:

* `WritesHeader`, `WritesEntry`, `WritesTable` and `WritesDocument` are the ways to write a
  document;
* `WritesHeader.readStatements` and `WritesEntry.readStatements` read one line, and
  `WritesDocument.readStatements` all of them by induction over the tables and their entries;
* `run_entries` and `run_table` carry the statements of a table out, and `run_tables` those of a
  document: the invariant is that the table that was opened last stands at the end of the root;
* `WritesDocument.parse?` is the result for all documents whose names are not repeated;
* `document` is one document of all tables with bare names, so that there always is one
  (`writesDocument_document`).
-/

namespace StatusDigest.Toml

/-! ## Ways to write a document -/

/-- Blanks, and nothing else. -/
def IsBlanks (text : List Char) : Prop :=
  ∀ c ∈ text, c = ' ' ∨ c = '\t'

/-- Blanks and empty lines, and nothing else. -/
def IsFiller (text : List Char) : Prop :=
  ∀ c ∈ text, c = ' ' ∨ c = '\t' ∨ c = '\n'

theorem isBlanks_nil : IsBlanks [] :=
  List.forall_mem_nil _

theorem isFiller_nil : IsFiller [] :=
  List.forall_mem_nil _

/-- A name that needs no quotes. -/
structure IsBareName (name : String) : Prop where
  filled : name.toList ≠ []
  bare : ∀ c ∈ name.toList, c.isAlphanum = true ∨ c = '_' ∨ c = '-'

/-- The header of the table with the name, in a line of its own. -/
inductive WritesHeader : List Char → String → Prop where
  | mk {filler behind : List Char} {name : String} (hfiller : IsFiller filler)
      (hname : IsBareName name) (hbehind : IsBlanks behind) :
      WritesHeader (filler ++ '[' :: (name.toList ++ ']' :: (behind ++ ['\n']))) name

/-- An entry with its name and its text, in a line of its own. -/
inductive WritesEntry : List Char → String × String → Prop where
  | mk {filler left right behind spelling : List Char} {name text : String}
      (hfiller : IsFiller filler) (hname : IsBareName name) (hleft : IsBlanks left)
      (hright : IsBlanks right) (hspelling : Spells text.toList spelling)
      (hbehind : IsBlanks behind) :
      WritesEntry (filler ++ (name.toList ++ (left ++ '=' :: (right ++ '"' :: (spelling ++
        '"' :: (behind ++ ['\n'])))))) (name, text)

/-- A table: its header, and a line for each entry. -/
inductive WritesTable : List Char → String × List (String × String) → Prop where
  | mk {header : List Char} {lines : List (List Char)} {name : String}
      {entries : List (String × String)} (hheader : WritesHeader header name)
      (hentries : List.Forall₂ WritesEntry lines entries) :
      WritesTable (header ++ lines.flatten) (name, entries)

/-- A document: its tables, one after the other. -/
inductive WritesDocument : List Char → List (String × List (String × String)) → Prop where
  | mk {parts : List (List Char)} {behind : List Char}
      {tables : List (String × List (String × String))}
      (htables : List.Forall₂ WritesTable parts tables) (hbehind : IsFiller behind) :
      WritesDocument (parts.flatten ++ behind) tables

/-! ## Between the parts -/

theorem isBlank_iff {c : Char} : isBlank c = true ↔ c = ' ' ∨ c = '\t' := by
  simp [isBlank]

theorem skipBlanks_append {blanks : List Char} (h : IsBlanks blanks) {c : Char}
    (hc : isBlank c = false) (rest : List Char) :
    skipBlanks (blanks ++ c :: rest) = c :: rest := by
  have hall : ∀ c ∈ blanks, isBlank c = true := fun c hmem => isBlank_iff.2 (h c hmem)
  rw [skipBlanks, List.dropWhile_append_of_pos hall, List.dropWhile_cons_of_neg (by simp [hc])]

theorem endLine_append {blanks : List Char} (h : IsBlanks blanks) (rest : List Char) :
    endLine false (blanks ++ '\n' :: rest) = some rest := by
  induction blanks with
  | nil => rfl
  | cons c blanks ih =>
    have hrest := ih fun other hother => h other (List.mem_cons_of_mem _ hother)
    rcases h c List.mem_cons_self with rfl | rfl
    · exact hrest
    · exact hrest

/-- The character is the first of a statement: no blank, no end of a line and no comment. -/
def StartsStatement (c : Char) : Prop :=
  isBlank c = false ∧ c ≠ '\n' ∧ c ≠ '\r' ∧ c ≠ '#'

theorem skipFiller_cons {c : Char} (h : StartsStatement c) (rest : List Char) :
    skipFiller false (c :: rest) = some (c :: rest) := by
  obtain ⟨hblank, hfeed, hreturn, hcomment⟩ := h
  rw [skipFiller]
  · simp [hblank, hcomment]
  · exact hfeed
  · rintro rest heq -
    exact hreturn heq

theorem skipFiller_append {filler : List Char} (h : IsFiller filler) (rest : List Char) :
    skipFiller false (filler ++ rest) = skipFiller false rest := by
  induction filler with
  | nil => rfl
  | cons c filler ih =>
    have hrest := ih fun other hother => h other (List.mem_cons_of_mem _ hother)
    rcases h c List.mem_cons_self with rfl | rfl | rfl
    · exact hrest
    · exact hrest
    · exact hrest

/-! ## Names -/

theorem isNameChar_iff {c : Char} :
    isNameChar c = true ↔ c.isAlphanum = true ∨ c = '_' ∨ c = '-' := by
  simp [isNameChar, or_assoc]

/-- A character that has a meaning of its own is in no name. -/
theorem IsBareName.exists_cons {name : String} (h : IsBareName name) :
    ∃ c rest, name.toList = c :: rest ∧ StartsStatement c ∧ c ≠ '[' ∧ c ≠ '"' ∧ c ≠ '\'' := by
  obtain ⟨c, rest, hname⟩ := List.exists_cons_of_ne_nil h.filled
  have hc := isNameChar_iff.2 (h.bare c (by rw [hname]; exact List.mem_cons_self))
  have hother : ∀ other : Char, isNameChar other = false → c ≠ other := by
    rintro other hother rfl
    rw [hc] at hother
    cases hother
  have hblank : isBlank c = false := by
    rw [← Bool.not_eq_true, isBlank_iff, not_or]
    exact ⟨hother _ rfl, hother _ rfl⟩
  exact ⟨c, rest, hname, ⟨hblank, hother _ rfl, hother _ rfl, hother _ rfl⟩, hother _ rfl,
    hother _ rfl, hother _ rfl⟩

/-- A name is read up to the first character that is in no name. -/
theorem IsBareName.readName_append {name : String} (h : IsBareName name) {c : Char}
    (hc : isNameChar c = false) (rest : List Char) :
    readName (name.toList ++ c :: rest) = some (name, c :: rest) := by
  have hall : ∀ c ∈ name.toList, isNameChar c = true := by
    intro c hmem
    exact isNameChar_iff.2 (h.bare c hmem)
  have htake : (name.toList ++ c :: rest).takeWhile isNameChar = name.toList := by
    rw [List.takeWhile_append_of_pos hall, List.takeWhile_cons_of_neg (by simp [hc]),
      List.append_nil]
  have hdrop : (name.toList ++ c :: rest).dropWhile isNameChar = c :: rest := by
    rw [List.dropWhile_append_of_pos hall, List.dropWhile_cons_of_neg (by simp [hc])]
  obtain ⟨first, others, hname, -, -, hquote, hsingle⟩ := h.exists_cons
  have hfilled : name.toList.isEmpty = false := by simp [hname]
  -- the name does not start with a quote, so that all but the last alternative fall away
  unfold readName
  split
  · rename_i heq
    rw [hname] at heq
    exact absurd (List.cons.inj heq).1 hquote
  · rename_i heq
    rw [hname] at heq
    exact absurd (List.cons.inj heq).1 hsingle
  · rename_i heq
    rw [hname] at heq
    exact absurd (List.cons.inj heq).1 hquote
  · rename_i heq
    rw [hname] at heq
    exact absurd (List.cons.inj heq).1 hsingle
  · simp only [htake, hdrop, hfilled, Bool.false_eq_true, if_false, String.ofList_toList]

/-- A name with no dot behind it is a whole key. -/
theorem IsBareName.readKey_append {name : String} (h : IsBareName name) {blanks : List Char}
    (hblanks : IsBlanks blanks) {c : Char} (hname : isNameChar c = false)
    (hblank : isBlank c = false) (hdot : c ≠ '.') (rest : List Char) :
    readKey depthLimit (name.toList ++ (blanks ++ c :: rest)) =
      some ({ path := [], name }, c :: rest) := by
  have hafter : ∃ first others, blanks ++ c :: rest = first :: others ∧
      isNameChar first = false := by
    cases blanks with
    | nil => exact ⟨c, rest, rfl, hname⟩
    | cons first others =>
      refine ⟨first, others ++ c :: rest, rfl, ?_⟩
      rcases hblanks first List.mem_cons_self with rfl | rfl
      · rfl
      · rfl
  obtain ⟨first, others, hcons, hfirst⟩ := hafter
  have hskip : skipBlanks (first :: others) = c :: rest := by
    rw [← hcons, skipBlanks_append hblanks hblank]
  rw [hcons, depthLimit, readKey, h.readName_append hfirst]
  simp only [Option.bind_eq_bind, Option.bind_some, hskip]
  split
  · rename_i heq
    exact absurd (List.cons.inj heq).1 hdot
  · rfl

/-! ## Lines -/

/-- What a text gives if it starts with a statement, and its line ends behind the statement. -/
theorem readStatements_append {filler start after rest : List Char} {statement : Statement}
    (hfiller : IsFiller filler) {c : Char} {others : List Char} (hstart : start = c :: others)
    (hc : StartsStatement c) (hread : readStatement start = some (statement, after))
    (hend : endLine false after = some rest) (hshorter : rest.length < start.length) :
    readStatements (filler ++ start) = (readStatements rest).map (statement :: ·) := by
  have hskip : skipFiller false (filler ++ start) = some (c :: others) := by
    rw [skipFiller_append hfiller, hstart, skipFiller_cons hc]
  have hlength : rest.length < (filler ++ start).length := by
    rw [List.length_append]
    omega
  rw [hstart] at hread
  rw [readStatements, hskip]
  simp only [hread, hend, dif_pos hlength]

/-- A header is read as one, and the lines below it are read on their own. -/
theorem WritesHeader.readStatements {header : List Char} {name : String}
    (h : WritesHeader header name) (rest : List Char) :
    Toml.readStatements (header ++ rest) =
      (Toml.readStatements rest).map (.header { path := [], name } :: ·) := by
  cases h with
  | @mk filler behind name hfiller hname hbehind =>
    obtain ⟨c, others, hcons, hc, hbracket, -, -⟩ := hname.exists_cons
    have hskip : skipBlanks (name.toList ++ ']' :: (behind ++ '\n' :: rest)) =
        name.toList ++ ']' :: (behind ++ '\n' :: rest) := by
      rw [hcons, skipBlanks, List.cons_append, List.dropWhile_cons_of_neg (by simp [hc.1])]
    have hkey : readKey depthLimit (name.toList ++ ']' :: (behind ++ '\n' :: rest)) =
        some ({ path := [], name }, ']' :: (behind ++ '\n' :: rest)) :=
      hname.readKey_append isBlanks_nil rfl rfl (by decide) _
    have hheader : readHeader (name.toList ++ ']' :: (behind ++ '\n' :: rest)) =
        some ({ path := [], name }, behind ++ '\n' :: rest) := by
      rw [readHeader, hskip, hkey]
      rfl
    have hread : readStatement ('[' :: (name.toList ++ ']' :: (behind ++ '\n' :: rest))) =
        some (.header { path := [], name }, behind ++ '\n' :: rest) := by
      rw [readStatement, hheader]
      · rfl
      · intro rest heq
        rw [hcons] at heq
        exact hbracket (List.cons.inj heq).1
    have hstarts : StartsStatement '[' := ⟨rfl, by decide, by decide, by decide⟩
    have hgiven := readStatements_append hfiller rfl hstarts hread (endLine_append hbehind rest)
      (by simp only [List.length_cons, List.length_append]; omega)
    simpa only [List.append_assoc, List.cons_append, List.nil_append] using hgiven

/-- A text in double quotes is read as a value. -/
theorem readValue_quoted {text spelling : List Char} (h : Spells text spelling) {c : Char}
    (hc : c ≠ '"') (rest : List Char) :
    readValue depthLimit ('"' :: (spelling ++ '"' :: c :: rest)) =
      some (.scalar (.text (String.ofList text)), c :: rest) := by
  have hquoted : readQuoted ('"' :: (spelling ++ '"' :: c :: rest)) = some (text, c :: rest) := by
    rw [readQuoted, readBasic_spells h]
    -- three quotes would open several lines, but there are two at most
    intro others heq
    cases spelling with
    | nil =>
      rw [List.nil_append] at heq
      exact hc (List.cons.inj (List.cons.inj heq).2).1
    | cons first more =>
      have hfirst := h.head?_ne
      rw [List.head?_cons] at hfirst
      exact hfirst (congrArg some (List.cons.inj heq).1)
  rw [depthLimit, readValue, hquoted]
  rfl

/-- An entry is read as an assignment, and the lines below it are read on their own. -/
theorem WritesEntry.readStatements {line : List Char} {entry : String × String}
    (h : WritesEntry line entry) (rest : List Char) :
    Toml.readStatements (line ++ rest) = (Toml.readStatements rest).map
      (.assignment { path := [], name := entry.1 } (.scalar (.text entry.2)) :: ·) := by
  cases h with
  | @mk filler left right behind spelling name text hfiller hname hleft hright hspelling hbehind =>
    obtain ⟨c, others, hcons, hc, hbracket, -, -⟩ := hname.exists_cons
    have hend := endLine_append hbehind rest
    have hlength : rest.length < (behind ++ '\n' :: rest).length := by
      simp only [List.length_append, List.length_cons]
      omega
    obtain ⟨first, more, hbelow, hfirst⟩ : ∃ first more, behind ++ '\n' :: rest = first :: more ∧
        first ≠ '"' := by
      cases behind with
      | nil => exact ⟨'\n', rest, rfl, by decide⟩
      | cons first more =>
        refine ⟨first, more ++ '\n' :: rest, rfl, ?_⟩
        rcases hbehind first List.mem_cons_self with rfl | rfl
        · decide
        · decide
    rw [hbelow] at hend hlength
    have hkey := hname.readKey_append hleft (c := '=') rfl rfl (by decide)
      (right ++ '"' :: (spelling ++ '"' :: first :: more))
    have hequals : readEquals ('=' :: (right ++ '"' :: (spelling ++ '"' :: first :: more))) =
        some ('"' :: (spelling ++ '"' :: first :: more)) :=
      congrArg some (skipBlanks_append hright rfl _)
    have hvalue := readValue_quoted hspelling hfirst more
    rw [String.ofList_toList] at hvalue
    have hread : readStatement (name.toList ++ (left ++ '=' :: (right ++ '"' :: (spelling ++
        '"' :: first :: more)))) =
        some (.assignment { path := [], name } (.scalar (.text text)), first :: more) := by
      have hheader : ∀ rest, name.toList ++ (left ++ '=' :: (right ++ '"' :: (spelling ++
          '"' :: first :: more))) ≠ '[' :: rest := by
        intro rest heq
        rw [hcons] at heq
        exact hbracket (List.cons.inj heq).1
      rw [readStatement]
      · simp only [hkey, Option.bind_eq_bind, Option.bind_some, hequals, hvalue]
        rfl
      · exact fun rest => hheader _
      · exact hheader
    have hgiven := readStatements_append hfiller (by rw [hcons]; rfl) hc hread hend
      (by simp only [List.length_cons, List.length_append] at hlength ⊢; omega)
    simpa only [List.append_assoc, List.cons_append, List.nil_append, hbelow] using hgiven

/-! ## All lines of a document -/

/-- The statement that gives a text to a name. -/
def assignmentOf (entry : String × String) : Statement :=
  .assignment { path := [], name := entry.1 } (.scalar (.text entry.2))

/-- The statements that make up a table. -/
def statementsOf (table : String × List (String × String)) : List Statement :=
  .header { path := [], name := table.1 } :: table.2.map assignmentOf

theorem readStatements_entries {lines : List (List Char)} {entries : List (String × String)}
    (h : List.Forall₂ WritesEntry lines entries) (rest : List Char) :
    readStatements (lines.flatten ++ rest) =
      (readStatements rest).map (entries.map assignmentOf ++ ·) := by
  induction h with
  | nil => simp
  | cons hentry _ ih =>
    rw [List.flatten_cons, List.append_assoc, hentry.readStatements, ih, Option.map_map]
    rfl

theorem WritesTable.readStatements {part : List Char} {table : String × List (String × String)}
    (h : WritesTable part table) (rest : List Char) :
    Toml.readStatements (part ++ rest) =
      (Toml.readStatements rest).map (statementsOf table ++ ·) := by
  cases h with
  | mk hheader hentries =>
    rw [List.append_assoc, hheader.readStatements, readStatements_entries hentries,
      Option.map_map]
    rfl

theorem readStatements_filler {filler : List Char} (h : IsFiller filler) :
    readStatements filler = some [] := by
  have hskip := skipFiller_append h []
  rw [List.append_nil] at hskip
  rw [readStatements, hskip]
  rfl

theorem WritesDocument.readStatements {text : List Char}
    {tables : List (String × List (String × String))} (h : WritesDocument text tables) :
    Toml.readStatements text = some (tables.flatMap statementsOf) := by
  cases h with
  | mk htables hbehind =>
    induction htables with
    | nil => exact readStatements_filler hbehind
    | cons htable _ ih =>
      rw [List.flatten_cons, List.append_assoc, htable.readStatements, ih]
      rfl

/-! ## Carrying the statements out -/

/-- Texts as the entries of a table. -/
def textEntries (entries : List (String × String)) : Entries :=
  entries.map fun entry => (entry.1, .scalar (.text entry.2))

/-- Tables as the entries of the root. -/
def rootOf (tables : List (String × List (String × String))) : Entries :=
  tables.map fun table => (table.1, .table .stated (textEntries table.2))

theorem lookup_eq_none_of_forall {entries : Entries} {name : String}
    (h : ∀ entry ∈ entries, entry.1 ≠ name) : entries.lookup name = none := by
  rw [List.lookup_eq_none_iff]
  intro entry hentry
  simpa using (h entry hentry).symm

theorem lookup_last {before : Entries} {name : String} (h : ∀ entry ∈ before, entry.1 ≠ name)
    (node : Node) : (before ++ [(name, node)]).lookup name = some node := by
  rw [List.lookup_append, lookup_eq_none_of_forall h]
  simp

theorem replace_last {before : Entries} {name : String} (h : ∀ entry ∈ before, entry.1 ≠ name)
    (old node : Node) :
    Entries.replace (before ++ [(name, old)]) name node = before ++ [(name, node)] := by
  have hbefore : before.map (fun entry => if entry.1 = name then (name, node) else entry) =
      before := by
    rw [List.map_congr_left fun entry hentry => if_neg (h entry hentry), List.map_id']
  rw [Entries.replace, List.map_append, hbefore, List.map_singleton, if_pos rfl]

/-- A header of a new name opens a table at the end of the root. -/
theorem run_header {draft : Draft} {name : String} (h : ∀ entry ∈ draft.root, entry.1 ≠ name) :
    draft.run (.header { path := [], name }) =
      some { root := draft.root ++ [(name, .table .stated [])], opened := [name] } := by
  simp only [Draft.run, Entries.openTable, Entries.descend, lookup_eq_none_of_forall h,
    Option.map_some, List.nil_append]

/-- An assignment to a new name goes to the end of the table that was opened last. -/
theorem run_assignment {before entries : Entries} {name key : String} (node : Node)
    (hname : ∀ entry ∈ before, entry.1 ≠ name) (hkey : ∀ entry ∈ entries, entry.1 ≠ key) :
    Draft.run { root := before ++ [(name, .table .stated entries)], opened := [name] }
      (.assignment { path := [], name := key } node) =
        some { root := before ++ [(name, .table .stated (entries ++ [(key, node)]))],
               opened := [name] } := by
  simp only [Draft.run, Draft.assign, Entries.descend, lookup_last hname, Entries.insert,
    lookup_eq_none_of_forall hkey]
  simp [replace_last hname]

/-- The entries of a table go to its end, one after the other. -/
theorem run_entries {before : Entries} {name : String} (hname : ∀ entry ∈ before, entry.1 ≠ name)
    (done : List (String × String)) {more : List (String × String)}
    (hkeys : ((done ++ more).map Prod.fst).Nodup) :
    (more.map assignmentOf).foldlM Draft.run
        { root := before ++ [(name, .table .stated (textEntries done))], opened := [name] } =
      some { root := before ++ [(name, .table .stated (textEntries (done ++ more)))],
             opened := [name] } := by
  induction more generalizing done with
  | nil => rw [List.append_nil]; rfl
  | cons entry more ih =>
    have hkey : ∀ other ∈ textEntries done, other.1 ≠ entry.1 := by
      intro other hother
      obtain ⟨earlier, hearlier, rfl⟩ := List.mem_map.1 hother
      rw [List.map_append, List.nodup_append] at hkeys
      exact hkeys.2.2 _ (List.mem_map_of_mem hearlier) _ List.mem_cons_self
    have hdone : textEntries done ++ [(entry.1, .scalar (.text entry.2))] =
        textEntries (done ++ [entry]) := by
      simp [textEntries]
    rw [List.map_cons, List.foldlM_cons, assignmentOf, run_assignment _ hname hkey, hdone,
      Option.bind_eq_bind, Option.bind_some]
    have hsplit : done ++ entry :: more = done ++ [entry] ++ more := List.append_cons ..
    rw [hsplit] at hkeys ⊢
    exact ih _ hkeys

/-- The statements of a table of a new name put it to the end of the root. -/
theorem run_table {draft : Draft} {table : String × List (String × String)}
    (hname : ∀ entry ∈ draft.root, entry.1 ≠ table.1) (hkeys : (table.2.map Prod.fst).Nodup) :
    (statementsOf table).foldlM Draft.run draft =
      some { root := draft.root ++ rootOf [table], opened := [table.1] } := by
  rw [statementsOf, List.foldlM_cons, run_header hname, Option.bind_eq_bind, Option.bind_some]
  exact run_entries hname [] hkeys

/-- The statements of all tables put them into the root, in their order. -/
theorem run_tables {tables : List (String × List (String × String))}
    (hkeys : ∀ table ∈ tables, (table.2.map Prod.fst).Nodup) (draft : Draft)
    (done : List (String × List (String × String))) (hroot : draft.root = rootOf done)
    (hnames : ((done ++ tables).map Prod.fst).Nodup) :
    ∃ opened, (tables.flatMap statementsOf).foldlM Draft.run draft =
      some { root := rootOf (done ++ tables), opened } := by
  induction tables generalizing draft done with
  | nil =>
    refine ⟨draft.opened, ?_⟩
    rw [List.append_nil, ← hroot]
    rfl
  | cons table tables ih =>
    have hname : ∀ entry ∈ draft.root, entry.1 ≠ table.1 := by
      intro entry hentry
      rw [hroot] at hentry
      obtain ⟨earlier, hearlier, rfl⟩ := List.mem_map.1 hentry
      rw [List.map_append, List.nodup_append] at hnames
      exact hnames.2.2 _ (List.mem_map_of_mem hearlier) _ List.mem_cons_self
    have hdone : draft.root ++ rootOf [table] = rootOf (done ++ [table]) := by
      rw [hroot]
      simp [rootOf]
    rw [List.flatMap_cons, List.foldlM_append,
      run_table hname (hkeys table List.mem_cons_self), hdone, Option.bind_eq_bind,
      Option.bind_some]
    have hsplit : done ++ table :: tables = done ++ [table] ++ tables := List.append_cons ..
    rw [hsplit] at hnames ⊢
    exact ih (fun other hother => hkeys other (List.mem_cons_of_mem _ hother)) _ _ rfl hnames

/-! ## The root of a document -/

/-- A document does not start with a byte order mark. -/
theorem WritesDocument.head?_ne {text : List Char} {tables : List (String × List (String × String))}
    (h : WritesDocument text tables) : text.head? ≠ some byteOrderMark := by
  have hbehind : ∀ {filler : List Char} (rest : List Char), IsFiller filler →
      rest.head? ≠ some byteOrderMark → (filler ++ rest).head? ≠ some byteOrderMark := by
    intro filler rest hfiller hrest
    cases filler with
    | nil => exact hrest
    | cons c filler =>
      rcases hfiller c List.mem_cons_self with rfl | rfl | rfl
      all_goals simp [byteOrderMark]
  cases h with
  | mk htables hfiller =>
    cases htables with
    | nil =>
      have hnone := hbehind [] hfiller (by simp)
      simpa using hnone
    | cons htable _ =>
      cases htable with
      | mk hheader _ =>
        cases hheader with
        | mk hstart _ _ =>
          rw [List.flatten_cons, List.append_assoc, List.append_assoc, List.append_assoc]
          exact hbehind _ hstart (by simp [byteOrderMark])

/-- A written document is valid if no name is repeated, and its root has the written tables. -/
theorem WritesDocument.parse? {text : String} {tables : List (String × List (String × String))}
    (h : WritesDocument text.toList tables) (hnames : (tables.map Prod.fst).Nodup)
    (hkeys : ∀ table ∈ tables, (table.2.map Prod.fst).Nodup) :
    Toml.parse? text = some (rootOf tables) := by
  obtain ⟨opened, hrun⟩ := run_tables hkeys {} [] rfl hnames
  rw [Toml.parse?]
  simp only [if_neg h.head?_ne, h.readStatements, Option.bind_eq_bind, Option.bind_some, hrun]
  rfl

/-! ## A document of all tables -/

/-- The header of a table with nothing around its name. -/
def headerLine (name : String) : List Char :=
  '[' :: (name.toList ++ ']' :: ['\n'])

/-- An entry of a table with one space on either side of the sign, and as few escapes as there can
be. -/
def entryLine (entry : String × String) : List Char :=
  entry.1.toList ++ (' ' :: '=' :: ' ' :: '"' :: (spell entry.2.toList ++ '"' :: ['\n']))

/-- A table with no empty lines in it. -/
def tableLines (table : String × List (String × String)) : List Char :=
  headerLine table.1 ++ (table.2.map entryLine).flatten

/-- A document with no empty lines in it. -/
def document (tables : List (String × List (String × String))) : String :=
  String.ofList (tables.map tableLines).flatten

theorem writesEntry_entryLine {entry : String × String} (h : IsBareName entry.1) :
    WritesEntry (entryLine entry) entry := by
  have hspace : IsBlanks [' '] := by simp [IsBlanks]
  exact .mk isFiller_nil h hspace hspace (spells_spell entry.2.toList) isBlanks_nil

theorem writesTable_tableLines {table : String × List (String × String)}
    (hname : IsBareName table.1) (hkeys : ∀ entry ∈ table.2, IsBareName entry.1) :
    WritesTable (tableLines table) table := by
  refine .mk (.mk isFiller_nil hname isBlanks_nil) ?_
  rw [List.forall₂_map_left_iff, List.forall₂_same]
  exact fun entry hentry => writesEntry_entryLine (hkeys entry hentry)

theorem writesDocument_document {tables : List (String × List (String × String))}
    (hnames : ∀ table ∈ tables, IsBareName table.1)
    (hkeys : ∀ table ∈ tables, ∀ entry ∈ table.2, IsBareName entry.1) :
    WritesDocument (document tables).toList tables := by
  have htables : List.Forall₂ WritesTable (tables.map tableLines) tables := by
    rw [List.forall₂_map_left_iff, List.forall₂_same]
    exact fun table htable => writesTable_tableLines (hnames table htable) (hkeys table htable)
  rw [document, String.toList_ofList, ← List.append_nil (List.flatten _)]
  exact .mk htables isFiller_nil

end StatusDigest.Toml
