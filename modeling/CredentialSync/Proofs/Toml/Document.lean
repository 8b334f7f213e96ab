import CredentialSync.Proofs.Toml.Number
import CredentialSync.Proofs.Toml.Quoted
import CredentialSync.Toml.Reader
import CredentialSync.Toml.Writer

/-!
# TOML documents are read back

A list of tables that is written as a document is read back as these tables with their values
(`read?_write`). The names of tables and keys must stand for themselves, none of them may come twice,
and integers must fit 64 bits (`Section.Writable`).

The reader takes one line at a time. There is one lemma for each kind of line: the header of a new
table, the line of a new key, and the empty line between two tables.
-/

namespace CredentialSync.Toml

/-! ## 1. What can be written -/

/-- The value that a line describes. -/
def Scalar.value : Scalar → Value
  | .string s => .string s
  | .integer n => .integer n
  | .boolean b => .boolean b

/-- Integers of a document fit 64 bits. -/
def Scalar.InRange : Scalar → Prop
  | .integer n => Int64.minValue.toInt ≤ n ∧ n ≤ Int64.maxValue.toInt
  | _ => True

/-- Names that stand for themselves without quotes. -/
def IsBare (name : String) : Prop :=
  name.toList ≠ [] ∧ ∀ c ∈ name.toList, Reader.isBareKeyChar c = true

instance (name : String) : Decidable (IsBare name) :=
  decidable_of_iff (name.toList ≠ [] ∧ name.toList.all Reader.isBareKeyChar = true)
    (and_congr_right' List.all_eq_true)

/-- Tables that can be written. -/
structure Section.Writable (s : Section) : Prop where
  name : IsBare s.name
  keys : ∀ field ∈ s.fields, IsBare field.1
  inRange : ∀ field ∈ s.fields, field.2.InRange
  distinct : (s.fields.map Prod.fst).Nodup

/-- A table with known names. -/
theorem Section.writable {name : String} {fields : List (String × Scalar)} (keys : List String)
    (hkeys : fields.map Prod.fst = keys)
    (hnames : IsBare name ∧ (∀ key ∈ keys, IsBare key) ∧ keys.Nodup)
    (hrange : ∀ field ∈ fields, field.2.InRange) : Section.Writable ⟨name, fields⟩ := by
  subst hkeys
  exact ⟨hnames.1, fun _ h => hnames.2.1 _ (List.mem_map_of_mem h), hrange, hnames.2.2⟩

/-- The values of a table. -/
def Section.values (s : Section) : List (String × Value) :=
  s.fields.map fun field => (field.1, field.2.value)

namespace Reader

/-! ## 2. Values -/

theorem value?_word {c : Char} (hc : Number.isWordChar c = true) (fuel room : Nat)
    (rest : List Char) : value? (fuel + 1) room (c :: rest) = Number.read? (c :: rest) := by
  have hopen : ∀ x ∈ ['[', Char.ofNat 0x7B, '"', Quoted.apostrophe], c ≠ x := by
    have hall : (['[', Char.ofNat 0x7B, '"', Quoted.apostrophe].all fun x =>
        !Number.isWordChar x) = true := by decide
    intro x hx hcx
    have hnot := List.all_eq_true.1 hall x hx
    rw [← hcx, hc] at hnot
    cases hnot
  simp only [List.forall_mem_cons] at hopen
  rw [value?]
  · simp [hopen]
  · exact hopen.1

theorem value?_quoted {c : Char} (hc : c = '"' ∨ c = Quoted.apostrophe) (fuel room : Nat)
    (rest : List Char) : value? (fuel + 1) room (c :: rest) =
      (Quoted.read? (c :: rest)).map fun (text, rest) => (.string (String.ofList text), rest) := by
  have hopen : c ≠ '[' ∧ (c == Char.ofNat 0x7B) = false ∧
      (c == '"' || c == Quoted.apostrophe) = true := by
    rcases hc with rfl | rfl <;> decide
  rw [value?, hopen.2.1, hopen.2.2]
  · rfl
  · exact hopen.1

theorem clear_line (rest : List Char) : Quoted.Clear ('\n' :: rest) :=
  ⟨fun h => absurd (Option.some.inj h) (by decide), fun h => absurd (Option.some.inj h) (by decide)⟩

/-- Integers and truth values are words. -/
theorem word_of_text {v : Scalar} (hrange : v.InRange) (hword : ∀ s, v ≠ .string s) :
    ∃ c cs, v.text = c :: cs ∧ (∀ x ∈ c :: cs, Number.isWordChar x = true) ∧
      Number.value? (c :: cs) = some v.value := by
  cases v with
  | string s => exact absurd rfl (hword s)
  | integer n =>
    cases htext : (Text.Decimal.ofInt n).toList with
    | nil =>
      rw [Number.toList_ofInt, List.append_eq_nil_iff] at htext
      exact absurd htext.2 Nat.toDigits_ne_nil
    | cons c cs =>
      refine ⟨c, cs, htext, ?_, ?_⟩ <;> rw [← htext]
      · exact Number.isWordChar_ofInt n
      · exact Number.value?_ofInt hrange
  | boolean b => cases b <;> exact ⟨_, _, rfl, List.all_eq_true.1 (by decide), rfl⟩

theorem isBlank_of_isWordChar {c : Char} (h : Number.isWordChar c = true) : isBlank c = false := by
  rw [isBlank, Bool.or_eq_false_iff, beq_eq_false_iff_ne, beq_eq_false_iff_ne]
  constructor <;>
  · rintro rfl
    exact absurd h (by decide)

/-- No blank stands in front of a value. -/
theorem skipBlanks_text {v : Scalar} (h : v.InRange) (rest : List Char) :
    skipBlanks (v.text ++ rest) = v.text ++ rest := by
  have hhead : ∃ c cs, v.text = c :: cs ∧ isBlank c = false := by
    cases v with
    | string s =>
      obtain ⟨c, cs, htext, hc⟩ := Quoted.write_eq_cons s.toList
      exact ⟨c, cs, htext, by rcases hc with rfl | rfl <;> rfl⟩
    | integer _ | boolean _ =>
      obtain ⟨c, cs, htext, hword, -⟩ := word_of_text h nofun
      exact ⟨c, cs, htext, isBlank_of_isWordChar (hword c List.mem_cons_self)⟩
  obtain ⟨c, cs, htext, hc⟩ := hhead
  rw [htext, List.cons_append, skipBlanks, List.dropWhile_cons_of_neg (by simp [hc])]

/-- A value is read up to the end of its line. -/
theorem value?_text {v : Scalar} (h : v.InRange) (fuel room : Nat) (rest : List Char) :
    value? (fuel + 1) room (v.text ++ '\n' :: rest) = some (v.value, '\n' :: rest) := by
  cases v with
  | string s =>
    obtain ⟨c, cs, htext, hc⟩ := Quoted.write_eq_cons s.toList
    rw [Scalar.text, htext, List.cons_append, value?_quoted hc, ← List.cons_append, ← htext,
      Quoted.read?_write _ (clear_line rest), Option.map_some]
    simp only [String.ofList_toList, Scalar.value]
  | integer _ | boolean _ =>
    obtain ⟨c, cs, htext, hword, hvalue⟩ := word_of_text h nofun
    rw [htext, List.cons_append, value?_word (hword c List.mem_cons_self), ← List.cons_append,
      Number.read?_append hword (by decide) (by decide), hvalue]
    rfl

/-! ## 3. Keys and headers -/

theorem ne_of_isBareKeyChar {c x : Char} (hc : isBareKeyChar c = true)
    (hx : isBareKeyChar x = false) : c ≠ x := by
  rintro rfl
  exact absurd hc (by simp [hx])

/-- A name is read up to the first character that cannot be part of it. -/
theorem keyPart?_bare {name : String} (h : IsBare name) {c : Char} (hc : isBareKeyChar c = false)
    (rest : List Char) :
    keyPart? (name.toList ++ c :: rest) = some (name, c :: rest) := by
  obtain ⟨hne, hbare⟩ := h
  cases hname : name.toList with
  | nil => exact absurd hname hne
  | cons x xs =>
    rw [hname] at hbare
    have hx := hbare x List.mem_cons_self
    have htake : (x :: xs ++ c :: rest).takeWhile isBareKeyChar = x :: xs := by
      rw [List.takeWhile_append_of_pos hbare, List.takeWhile_cons_of_neg (by simp [hc]),
        List.append_nil]
    have hdrop : (x :: xs ++ c :: rest).dropWhile isBareKeyChar = c :: rest := by
      rw [List.dropWhile_append_of_pos hbare, List.dropWhile_cons_of_neg (by simp [hc])]
    rw [List.cons_append] at htake hdrop ⊢
    rw [keyPart?, beq_eq_false_iff_ne.mpr (ne_of_isBareKeyChar hx (by decide)), hx, htake, hdrop,
      ← hname, String.ofList_toList]
    · rfl
    · exact ne_of_isBareKeyChar hx (by decide)

theorem isBlank_of_isBareKeyChar {c : Char} (h : isBareKeyChar c = true) : isBlank c = false := by
  rw [isBlank, beq_eq_false_iff_ne.mpr (ne_of_isBareKeyChar h (by decide)),
    beq_eq_false_iff_ne.mpr (ne_of_isBareKeyChar h (by decide))]
  rfl

theorem skipBlanks_of_head {c : Char} (hc : isBlank c = false) (rest : List Char) :
    skipBlanks (c :: rest) = c :: rest := by
  rw [skipBlanks, List.dropWhile_cons_of_neg (by simp [hc])]

theorem IsBare.eq_cons {name : String} (h : IsBare name) :
    ∃ c cs, name.toList = c :: cs ∧ isBareKeyChar c = true := by
  obtain ⟨hne, hbare⟩ := h
  cases hname : name.toList with
  | nil => exact absurd hname hne
  | cons c cs => exact ⟨c, cs, rfl, hbare c (hname ▸ List.mem_cons_self)⟩

theorem skipBlanks_bare {name : String} (h : IsBare name) (rest : List Char) :
    skipBlanks (name.toList ++ rest) = name.toList ++ rest := by
  obtain ⟨c, cs, hname, hc⟩ := IsBare.eq_cons h
  rw [hname, List.cons_append, skipBlanks_of_head (isBlank_of_isBareKeyChar hc)]

/-- A key of one name. -/
theorem key?_bare {name : String} (h : IsBare name) {c x : Char} (hc : isBareKeyChar c = false)
    {rest behind : List Char} (hbehind : skipBlanks (c :: rest) = x :: behind) (hx : x ≠ '.')
    (n : Nat) : key? (n + 1) (name.toList ++ c :: rest) = some ([name], x :: behind) := by
  rw [key?, skipBlanks_bare h, keyPart?_bare h hc]
  simp only [Option.bind_eq_bind, Option.bind_some, hbehind]
  split
  · next heq => exact absurd (List.cons.inj heq).1 hx
  · rfl

theorem header?_bare {name : String} (h : IsBare name) (rest : List Char) :
    header? false (name.toList ++ ']' :: rest) = some ([name], rest) := by
  rw [header?, nestingLimit, key?_bare h (by decide) (skipBlanks_of_head (by decide) _) (by decide)]
  rfl

theorem keyOfValue?_bare {name : String} (h : IsBare name) (rest : List Char) :
    keyOfValue? (name.toList ++ ' ' :: '=' :: rest) = some ([name], skipBlanks rest) := by
  have hblank : skipBlanks (' ' :: '=' :: rest) = '=' :: rest := rfl
  rw [keyOfValue?, nestingLimit, key?_bare h (by decide) hblank (by decide)]
  rfl

/-! ## 4. Tables under construction -/

theorem lookup_of_notMem {key : String} {es : Entries} (h : key ∉ es.map Prod.fst) :
    es.lookup key = none := by
  refine List.lookup_eq_none_iff.mpr fun e he => bne_iff_ne.mpr ?_
  rintro rfl
  exact h (List.mem_map_of_mem he)

theorem set_append {key : String} (item : Item) {es : Entries} (h : key ∉ es.map Prod.fst)
    (rest : Entries) : Entries.set key item (es ++ rest) = es ++ Entries.set key item rest := by
  induction es with
  | nil => rfl
  | cons e es ih =>
    rw [List.map_cons, List.mem_cons, not_or] at h
    rw [List.cons_append, Entries.set, if_neg (by simpa using Ne.symm h.1), ih h.2,
      List.cons_append]

theorem set_of_notMem {key : String} (item : Item) {es : Entries} (h : key ∉ es.map Prod.fst) :
    Entries.set key item es = es ++ [(key, item)] := by
  have hset := set_append item h []
  rwa [List.append_nil] at hset

theorem lookup_last {key : String} (item : Item) {es : Entries} (h : key ∉ es.map Prod.fst) :
    (es ++ [(key, item)]).lookup key = some item := by
  rw [List.lookup_append, lookup_of_notMem h, Option.none_or, List.lookup_cons_self]

theorem addHeader_new {name : String} {es : Entries} (h : name ∉ es.map Prod.fst) :
    es.addHeader false [name] = some (es ++ [(name, .table .header [])]) := by
  show Entries.openTable name es = _
  rw [Entries.openTable, lookup_of_notMem h, set_of_notMem _ h]

theorem addKey_new {key : String} (v : Value) {es : Entries} (h : key ∉ es.map Prod.fst) :
    es.addKey v [key] = some (es ++ [(key, .value v)]) := by
  rw [Entries.addKey, Entries.addKeyTo, if_pos rfl, Entries.addNew, lookup_of_notMem h,
    set_of_notMem _ h]

/-- The table of the last header gets what comes next. -/
theorem modifyAt_last {name : String} {es sub sub' : Entries} (h : name ∉ es.map Prod.fst)
    {f : Entries → Option Entries} (hf : f sub = some sub') :
    Entries.modifyAt f [name] (es ++ [(name, .table .header sub)]) =
      some (es ++ [(name, .table .header sub')]) := by
  rw [Entries.modifyAt, lookup_last (.table .header sub) h]
  simp only [Entries.modifyAt, hf, Option.map_some]
  rw [set_append _ h, Entries.set, if_pos (beq_self_eq_true _)]

/-! ## 5. Lines -/

theorem lines?_empty (fuel : Nat) (current : List String) (es : Entries) (rest : List Char) :
    lines? (fuel + 1) current es ('\n' :: rest) = lines? fuel current es rest := by
  rfl

theorem lines?_header {name : String} (hname : IsBare name) {es : Entries}
    (hnew : name ∉ es.map Prod.fst) (fuel : Nat) (current : List String) (rest : List Char) :
    lines? (fuel + 1) current es ('[' :: (name.toList ++ ']' :: '\n' :: rest)) =
      lines? fuel [name] (es ++ [(name, .table .header [])]) rest := by
  obtain ⟨c, cs, hcons, hc⟩ := IsBare.eq_cons hname
  have hline : endOfLine? ('\n' :: rest) = some rest := rfl
  have hopen (behind : List Char) : name.toList ++ ']' :: '\n' :: rest ≠ '[' :: behind := by
    rw [hcons]
    exact fun h => ne_of_isBareKeyChar hc (by decide) (List.cons.inj h).1
  rw [lines?, skipBlanks_of_head (by decide)]
  split
  · next heq => cases heq
  · next heq => exact absurd (List.cons.inj heq).2 (hopen _)
  · next heq =>
    cases heq
    simp only [header?_bare hname, addHeader_new hnew, hline, Option.bind_eq_bind,
      Option.bind_some]
  · next hother heq =>
    cases heq
    exact (hother rfl).elim

theorem lines?_field {name : String} {es sub : Entries} (hname : name ∉ es.map Prod.fst)
    {field : String × Scalar} (hkey : IsBare field.1) (hrange : field.2.InRange)
    (hnew : field.1 ∉ sub.map Prod.fst) (fuel : Nat) (rest : List Char) :
    lines? (fuel + 1) [name] (es ++ [(name, .table .header sub)]) (fieldLine field ++ rest) =
      lines? fuel [name]
        (es ++ [(name, .table .header (sub ++ [(field.1, .value field.2.value)]))]) rest := by
  obtain ⟨c, cs, hcons, hc⟩ := IsBare.eq_cons hkey
  have hline : endOfLine? ('\n' :: rest) = some rest := rfl
  have hsplit : fieldLine field ++ rest =
      field.1.toList ++ ' ' :: '=' :: ' ' :: (field.2.text ++ '\n' :: rest) := by
    simp [fieldLine]
  have hvalue : skipBlanks (' ' :: (field.2.text ++ '\n' :: rest)) =
      field.2.text ++ '\n' :: rest := skipBlanks_text hrange _
  have hread : keyOfValue? (field.1.toList ++ ' ' :: '=' :: ' ' :: (field.2.text ++ '\n' :: rest)) =
      some ([field.1], field.2.text ++ '\n' :: rest) := by rw [keyOfValue?_bare hkey, hvalue]
  have hstart : (c == '#' || c == '\n' || c == '\r') = false := by
    rw [beq_eq_false_iff_ne.mpr (ne_of_isBareKeyChar hc (by decide)),
      beq_eq_false_iff_ne.mpr (ne_of_isBareKeyChar hc (by decide)),
      beq_eq_false_iff_ne.mpr (ne_of_isBareKeyChar hc (by decide))]
    rfl
  have hopen : c ≠ '[' := ne_of_isBareKeyChar hc (by decide)
  rw [hcons, List.cons_append] at hread hsplit
  rw [lines?, hsplit, skipBlanks_of_head (isBlank_of_isBareKeyChar hc)]
  split
  · next heq => cases heq
  · next heq => exact absurd (List.cons.inj heq).1 hopen
  · next heq => exact absurd (List.cons.inj heq).1 hopen
  · next heq =>
    cases heq
    simp only [hstart, Bool.false_eq_true, if_false, hread, value?_text hrange,
      modifyAt_last hname (addKey_new field.2.value hnew), hline, Option.bind_eq_bind,
      Option.bind_some]

/-! ## 6. Whole documents -/

/-- The fields of a table as they stand in a table under construction. -/
def fieldEntries (fields : List (String × Scalar)) : Entries :=
  fields.map fun field => (field.1, .value field.2.value)

/-- Tables as they stand in a document under construction. -/
def sectionEntries (sections : List Section) : Entries :=
  sections.map fun s => (s.name, .table .header (fieldEntries s.fields))

theorem map_fst_fieldEntries (fields : List (String × Scalar)) :
    (fieldEntries fields).map Prod.fst = fields.map Prod.fst := by
  simp [fieldEntries]

theorem map_fst_sectionEntries (sections : List Section) :
    (sectionEntries sections).map Prod.fst = sections.map Section.name := by
  simp [sectionEntries]

/-- The lines of a table, one by one: each takes one step and at least one character. -/
theorem lines?_fields {name : String} {es : Entries} (hname : name ∉ es.map Prod.fst)
    (fields done : List (String × Scalar)) (hkeys : ∀ field ∈ fields, IsBare field.1)
    (hrange : ∀ field ∈ fields, field.2.InRange)
    (hdistinct : ((done ++ fields).map Prod.fst).Nodup) {fuel : Nat} {rest : List Char}
    (hfuel : (fields.flatMap fieldLine ++ rest).length < fuel) :
    ∃ fuel', rest.length < fuel' ∧
      lines? fuel [name] (es ++ [(name, .table .header (fieldEntries done))])
          (fields.flatMap fieldLine ++ rest) =
        lines? fuel' [name] (es ++ [(name, .table .header (fieldEntries (done ++ fields)))]) rest := by
  induction fields generalizing done fuel with
  | nil => exact ⟨fuel, hfuel, by rw [List.append_nil]; rfl⟩
  | cons field fields ih =>
    rw [List.forall_mem_cons] at hkeys hrange
    obtain ⟨c, cs, hline, -⟩ := IsBare.eq_cons hkeys.1
    have hnew : field.1 ∉ (fieldEntries done).map Prod.fst := by
      rw [map_fst_fieldEntries]
      rw [List.map_append, List.map_cons, List.nodup_append] at hdistinct
      exact fun hmem => hdistinct.2.2 _ hmem _ List.mem_cons_self rfl
    rw [List.flatMap_cons, List.append_assoc] at hfuel ⊢
    obtain ⟨fuel, rfl⟩ : ∃ n, fuel = n + 1 := ⟨fuel - 1, by omega⟩
    have hshort : (fields.flatMap fieldLine ++ rest).length < fuel := by
      simp only [fieldLine, hline, List.length_append, List.length_cons] at hfuel ⊢
      omega
    rw [lines?_field hname hkeys.1 hrange.1 hnew]
    have hsplit : done ++ field :: fields = (done ++ [field]) ++ fields := by simp
    rw [hsplit] at hdistinct ⊢
    have hentries : fieldEntries done ++ [(field.1, .value field.2.value)] =
        fieldEntries (done ++ [field]) := by simp [fieldEntries]
    rw [hentries]
    exact ih (done ++ [field]) hkeys.2 hrange.2 hdistinct hshort

/-- A table with all its lines. -/
theorem lines?_section {s : Section} (hs : s.Writable) {done : List Section}
    (hnew : s.name ∉ done.map Section.name) {fuel : Nat} (current : List String) {rest : List Char}
    (hfuel : (s.lines ++ rest).length < fuel) :
    ∃ fuel', rest.length < fuel' ∧
      lines? fuel current (sectionEntries done) (s.lines ++ rest) =
        lines? fuel' [s.name] (sectionEntries (done ++ [s])) rest := by
  have hname : s.name ∉ (sectionEntries done).map Prod.fst := by rwa [map_fst_sectionEntries]
  have hlines : s.lines ++ rest =
      '[' :: (s.name.toList ++ ']' :: '\n' :: (s.fields.flatMap fieldLine ++ rest)) := by
    simp [Section.lines]
  have hentries : sectionEntries (done ++ [s]) =
      sectionEntries done ++ [(s.name, .table .header (fieldEntries ([] ++ s.fields)))] := by
    simp [sectionEntries]
  rw [hlines] at hfuel ⊢
  obtain ⟨fuel, rfl⟩ : ∃ n, fuel = n + 1 := ⟨fuel - 1, by omega⟩
  rw [lines?_header hs.name hname, hentries]
  refine lines?_fields hname s.fields [] hs.keys hs.inRange hs.distinct ?_
  simp only [List.length_append, List.length_cons] at hfuel ⊢
  omega

/-- The tables of a document, one by one. -/
theorem lines?_sections (sections done : List Section) (hwritable : ∀ s ∈ sections, s.Writable)
    (hdistinct : ((done ++ sections).map Section.name).Nodup) {fuel : Nat} (current : List String)
    (hfuel : (['\n'].intercalate (sections.map Section.lines)).length < fuel) :
    lines? fuel current (sectionEntries done) (['\n'].intercalate (sections.map Section.lines)) =
      some (sectionEntries (done ++ sections)) := by
  induction sections generalizing done fuel current with
  | nil =>
    obtain ⟨fuel, rfl⟩ : ∃ n, fuel = n + 1 := ⟨fuel - 1, by omega⟩
    rw [List.append_nil]
    rfl
  | cons s sections ih =>
    rw [List.forall_mem_cons] at hwritable
    have hnew : s.name ∉ done.map Section.name := by
      rw [List.map_append, List.map_cons, List.nodup_append] at hdistinct
      exact fun hmem => hdistinct.2.2 _ hmem _ List.mem_cons_self rfl
    cases sections with
    | nil =>
      have hlines : ['\n'].intercalate ([s].map Section.lines) = s.lines ++ [] := by simp
      rw [hlines] at hfuel ⊢
      obtain ⟨fuel', hfuel', hstep⟩ := lines?_section hwritable.1 hnew current hfuel
      obtain ⟨fuel', rfl⟩ : ∃ n, fuel' = n + 1 := ⟨fuel' - 1, by omega⟩
      rw [hstep]
      rfl
    | cons s' sections =>
      have hlines : ['\n'].intercalate ((s :: s' :: sections).map Section.lines) =
          s.lines ++ '\n' :: ['\n'].intercalate ((s' :: sections).map Section.lines) := by
        simp [List.intercalate_cons_cons]
      have hsplit : done ++ s :: s' :: sections = (done ++ [s]) ++ s' :: sections := by simp
      rw [hlines] at hfuel ⊢
      rw [hsplit] at hdistinct ⊢
      obtain ⟨fuel', hfuel', hstep⟩ := lines?_section hwritable.1 hnew current hfuel
      obtain ⟨fuel', rfl⟩ : ∃ n, fuel' = n + 1 := ⟨fuel' - 1, by omega⟩
      rw [hstep, lines?_empty]
      exact ih (done ++ [s]) hwritable.2 hdistinct _ (Nat.lt_of_succ_lt_succ hfuel')

end Reader

theorem entriesToValues_fieldEntries (fields : List (String × Scalar)) :
    entriesToValues (Reader.fieldEntries fields) =
      fields.map fun field => (field.1, field.2.value) := by
  induction fields with
  | nil => rfl
  | cons field fields ih =>
    rw [Reader.fieldEntries] at ih ⊢
    rw [List.map_cons, List.map_cons, entriesToValues, ih, Item.toValue]

theorem entriesToValues_sectionEntries (sections : List Section) :
    entriesToValues (Reader.sectionEntries sections) =
      sections.map fun s => (s.name, .table s.values) := by
  induction sections with
  | nil => rfl
  | cons s sections ih =>
    rw [Reader.sectionEntries] at ih ⊢
    rw [List.map_cons, List.map_cons, entriesToValues, ih, Item.toValue,
      entriesToValues_fieldEntries, Section.values]

/-- **A document is read back as the tables that it was written from.** -/
theorem read?_write {sections : List Section} (hwritable : ∀ s ∈ sections, s.Writable)
    (hdistinct : (sections.map Section.name).Nodup) :
    read? (write sections) = some (sections.map fun s => (s.name, .table s.values)) := by
  have hmark (cs : List Char) (h : cs.head? = none ∨ cs.head? = some '[') :
      Reader.skipMark cs = cs := by
    cases cs with
    | nil => rfl
    | cons c cs =>
      obtain rfl : c = '[' := by simpa using h
      rfl
  rw [read?, write, String.toList_ofList, hmark]
  · have hlines := Reader.lines?_sections sections [] hwritable hdistinct [] (Nat.lt_succ_self _)
    exact (congrArg (Option.map entriesToValues) hlines).trans
      (congrArg some (entriesToValues_sectionEntries sections))
  · cases sections with
    | nil => exact .inl rfl
    | cons s sections =>
      refine .inr ?_
      cases sections <;> simp [Section.lines, List.intercalate_cons_cons]

end CredentialSync.Toml
