import PacketRelay.Proofs.Scalars

/-!
Documents that are made of lines with a key and a value, and how they are read. Main
statement: such a document gives its keys and values in the order of the lines, whatever
blanks, comments and empty lines stand between them.
-/

namespace PacketRelay.Document

def Blank (gap : Chars) : Prop :=
  ∀ c ∈ gap, c = ' ' ∨ c = '\t'

inductive LineEnd : Chars → Prop
  | feed : LineEnd ['\n']
  | returnFeed : LineEnd ['\r', '\n']

inductive Filler : Chars → Prop
  | none : Filler []
  | blank {c : Char} {more : Chars} (blank : c = ' ' ∨ c = '\t') (later : Filler more) :
      Filler (c :: more)
  | line {ending more : Chars} (ends : LineEnd ending) (later : Filler more) :
      Filler (ending ++ more)
  | comment {remark ending more : Chars} (plain : ∀ c ∈ remark, Plain c) (ends : LineEnd ending)
      (later : Filler more) : Filler ('#' :: (remark ++ (ending ++ more)))

/-- The ways to write items that hold no others, from after a bracket or a comma. A comma
may stand behind the last. -/
inductive WritesItems : List Value → Chars → Prop
  | none {gap : Chars} (filler : Filler gap) : WritesItems [] (gap ++ [']'])
  | last {item : Value} {before text behind : Chars} (leads : Filler before)
      (written : WritesScalar item text) (trails : Filler behind) :
      WritesItems [item] (before ++ (text ++ (behind ++ [']'])))
  | next {item : Value} {items : List Value} {before text behind more : Chars}
      (leads : Filler before) (written : WritesScalar item text) (trails : Filler behind)
      (later : WritesItems items more) :
      WritesItems (item :: items) (before ++ (text ++ (behind ++ ',' :: more)))

inductive WritesValue : Value → Chars → Prop
  | scalar {value : Value} {text : Chars} (written : WritesScalar value text) :
      WritesValue value text
  | array {items : List Value} {text : Chars} (written : WritesItems items text) :
      WritesValue (.array items) ('[' :: text)

inductive Tail : Chars → Prop
  | blank {gap : Chars} (blank : Blank gap) : Tail gap
  | comment {gap remark : Chars} (blank : Blank gap) (plain : ∀ c ∈ remark, Plain c) :
      Tail (gap ++ '#' :: remark)

inductive WritesEntry : String × Value → Chars → Prop
  | entry {name lead gap space text tail : Chars} {value : Value} (named : name ≠ [])
      (bare : ∀ c ∈ name, isBare c = true) (leads : Blank lead) (parts : Blank gap)
      (spaces : Blank space) (written : WritesValue value text) (trails : Tail tail) :
      WritesEntry (String.ofList name, value)
        (lead ++ (name ++ (gap ++ '=' :: (space ++ (text ++ tail)))))

/-- The end of a line and what follows it; the last line needs none. -/
inductive Ends : Chars → Chars → Prop
  | nothing : Ends [] []
  | line {ending more : Chars} (ends : LineEnd ending) : Ends (ending ++ more) more

/-- The ways to write keys and values, each on a line, with lines that say nothing among them. -/
inductive WritesLines : Entries → Chars → Prop
  | none {tail : Chars} (trails : Tail tail) : WritesLines [] tail
  | idle {entries : Entries} {tail ending more : Chars} (trails : Tail tail)
      (ends : LineEnd ending) (later : WritesLines entries more) :
      WritesLines entries (tail ++ (ending ++ more))
  | entry {entry : String × Value} {entries : Entries} {text rest more : Chars}
      (line : WritesEntry entry text) (ends : Ends rest more) (later : WritesLines entries more) :
      WritesLines (entry :: entries) (text ++ rest)

/-! ## Blanks, line ends and comments -/

theorem Blank.isBlank {gap : Chars} (blank : Blank gap) {c : Char} (member : c ∈ gap) :
    isBlank c = true := by
  simpa [Document.isBlank] using blank c member

theorem skipBlanks_blank {gap : Chars} (blank : Blank gap) (rest : Chars) :
    skipBlanks (gap ++ rest) = skipBlanks rest :=
  List.dropWhile_append_of_pos fun _ member => blank.isBlank member

theorem skipBlanks_cons {c : Char} (visible : isBlank c = false) (rest : Chars) :
    skipBlanks (c :: rest) = c :: rest :=
  List.dropWhile_cons_of_neg (by simp [visible])

theorem Plain.not_end {c : Char} (plain : Plain c) : c ≠ '\n' ∧ c ≠ '\r' := by
  constructor
  · rintro rfl
    simp [Plain] at plain
  · rintro rfl
    simp [Plain] at plain

theorem Delimited.append {front rest : Chars} (leads : Delimited front)
    (delimited : Delimited rest) : Delimited (front ++ rest) := by
  cases front with
  | nil => exact delimited
  | cons c more => exact leads

theorem delimited_cons (c : Char) (listed : c ∈ delimiters)
    (rest : Chars) : Delimited (c :: rest) := by
  rintro d first
  cases first
  exact listed

theorem delimited_nil : Delimited [] := by
  rintro c first
  cases first

theorem LineEnd.delimited {ending : Chars} (ends : LineEnd ending) (rest : Chars) :
    Delimited (ending ++ rest) := by
  cases ends <;> exact delimited_cons _ (by decide) _

theorem Blank.delimited {gap : Chars} (blank : Blank gap) : Delimited gap := by
  cases gap with
  | nil => exact delimited_nil
  | cons c more =>
      rcases blank c List.mem_cons_self with rfl | rfl <;> exact delimited_cons _ (by decide) more

theorem Filler.delimited {gap : Chars} (filler : Filler gap) : Delimited gap := by
  cases filler with
  | none => exact delimited_nil
  | blank blank later => rcases blank with rfl | rfl <;> exact delimited_cons _ (by decide) _
  | line ends later => exact ends.delimited _
  | comment plain ends later => exact delimited_cons _ (by decide) _

theorem Tail.delimited {tail : Chars} (trails : Tail tail) : Delimited tail := by
  cases trails with
  | blank blank => exact blank.delimited
  | comment blank plain => exact blank.delimited.append (delimited_cons _ (by decide) _)

theorem Ends.delimited {rest more : Chars} (ends : Ends rest more) : Delimited rest := by
  cases ends with
  | nothing => exact delimited_nil
  | line ends => exact ends.delimited more

theorem skipComment_remark {remark rest more : Chars} (plain : ∀ c ∈ remark, Plain c)
    (ends : Ends rest more) : skipComment ('#' :: (remark ++ rest)) = rest := by
  rw [skipComment,
    List.dropWhile_append_of_pos fun c member => (isPlain_iff c).mpr (plain c member)]
  cases ends with
  | nothing => rfl
  | line ends => cases ends <;> rfl

theorem endLine?_ends {cs rest more : Chars} (left : skipComment (skipBlanks cs) = rest)
    (ends : Ends rest more) : endLine? cs = some more := by
  rw [endLine?, left]
  cases ends with
  | nothing => rfl
  | line ends => cases ends <;> rfl

theorem endLine?_remark {remark rest more : Chars} (plain : ∀ c ∈ remark, Plain c)
    (ends : Ends rest more) : endLine? ('#' :: (remark ++ rest)) = some more := by
  apply endLine?_ends _ ends
  rw [skipBlanks_cons (by decide), skipComment_remark plain ends]

theorem endLine?_tail {tail rest more : Chars} (trails : Tail tail) (ends : Ends rest more) :
    endLine? (tail ++ rest) = some more := by
  apply endLine?_ends _ ends
  cases trails with
  | blank blank =>
      rw [skipBlanks_blank blank]
      cases ends with
      | nothing => rfl
      | line ends => cases ends <;> rfl
  | comment blank plain =>
      rw [List.append_assoc, skipBlanks_blank blank, List.cons_append,
        skipBlanks_cons (by decide), skipComment_remark plain ends]

theorem skipFiller_remark {remark : Chars} (plain : ∀ c ∈ remark, Plain c) (rest : Chars) :
    skipFiller true (remark ++ rest) = skipFiller true rest := by
  induction remark with
  | nil => rfl
  | cons c later ih =>
      have self := plain c List.mem_cons_self
      obtain ⟨noFeed, noReturn⟩ := self.not_end
      rw [List.cons_append, ← ih fun d member => plain d (List.mem_cons_of_mem c member)]
      simp [skipFiller, noReturn, (isPlain_iff c).mpr self]

theorem skipFiller_end {ending : Chars} (ends : LineEnd ending) (inComment : Bool) (rest : Chars) :
    skipFiller inComment (ending ++ rest) = skipFiller false rest := by
  cases ends <;> simp [skipFiller]

theorem skipFiller_filler {gap : Chars} (filler : Filler gap) (rest : Chars) :
    skipFiller false (gap ++ rest) = skipFiller false rest := by
  induction filler with
  | none => rfl
  | blank blank later ih => rcases blank with rfl | rfl <;> simpa [skipFiller, isBlank] using ih
  | line ends later ih => rw [List.append_assoc, skipFiller_end ends, ih]
  | @comment remark ending more plain ends later ih =>
      have opened (cs : Chars) : skipFiller false ('#' :: cs) = skipFiller true cs := by
        simp [skipFiller]
      rw [List.cons_append, List.append_assoc, List.append_assoc, opened, skipFiller_remark plain,
        skipFiller_end ends, ih]

/-! ## Values -/

theorem WritesScalar.begins {value : Value} {text : Chars} (written : WritesScalar value text) :
    ∃ c more, text = c :: more ∧ c ∉ [' ', '\t', '\n', '\r', '#', ']', '[', '\x7b'] := by
  cases written with
  | text written =>
      obtain ⟨c, more, rfl, quote⟩ := written.begins
      refine ⟨c, more, rfl, ?_⟩
      rcases quote with rfl | rfl <;> decide
  | integer written fits =>
      obtain ⟨c, more, rfl, first⟩ := written.begins
      refine ⟨c, more, rfl, ?_⟩
      rcases first with rfl | rfl | digit
      · decide
      · decide
      · have noDigits : ∀ d ∈ [' ', '\t', '\n', '\r', '#', ']', '[', '\x7b'],
            isDigitOf 10 d = false :=
          each (by decide)
        intro member
        exact Bool.false_ne_true ((noDigits c member).symm.trans digit)
  | yes => exact ⟨'t', _, rfl, by decide⟩
  | no => exact ⟨'f', _, rfl, by decide⟩

theorem skipFiller_scalar {value : Value} {text : Chars} (written : WritesScalar value text)
    (rest : Chars) : skipFiller false (text ++ rest) = text ++ rest := by
  obtain ⟨c, more, rfl, other⟩ := written.begins
  have visible : isBlank c = false := by
    simp_all [isBlank]
  simp_all [skipFiller]

theorem skipBlanks_value {value : Value} {text : Chars} (written : WritesValue value text)
    (rest : Chars) : skipBlanks (text ++ rest) = text ++ rest := by
  cases written with
  | array => rfl
  | scalar written =>
      obtain ⟨c, more, rfl, other⟩ := written.begins
      exact skipBlanks_cons (by simp_all [isBlank]) _

/-- Nesting does not matter to a value that holds no other. -/
theorem value?_scalar (fuel depth : Nat) {value : Value} {text rest : Chars}
    (written : WritesScalar value text) (delimited : Delimited rest) :
    value? fuel depth (text ++ rest) = some (value, rest) := by
  have read := scalar??_written written delimited
  cases depth with
  | zero => exact read
  | succ depth =>
      obtain ⟨c, more, rfl, other⟩ := written.begins
      rw [List.cons_append] at read ⊢
      simp_all [value?]

/-! ### Arrays -/

section Items

variable {reader : ValueReader} {cs start after rest left : Chars} {item : Value}
  {items : List Value}

theorem items?_close (closed : skipFiller false cs = ']' :: rest) (fuel : Nat) :
    items? reader (fuel + 1) cs = some ([], rest) := by
  simp [items?, closed]

theorem items?_last (opened : skipFiller false cs = start) (unclosed : start.head? ≠ some ']')
    (read : reader start = some (item, after)) (closed : skipFiller false after = ']' :: rest)
    (fuel : Nat) : items? reader (fuel + 1) cs = some ([item], rest) := by
  unfold items?
  split
  · next closed =>
      rw [← opened, closed] at unclosed
      exact absurd rfl unclosed
  · simp [opened, read, closed]

theorem items?_next (opened : skipFiller false cs = start) (unclosed : start.head? ≠ some ']')
    (read : reader start = some (item, after)) (parted : skipFiller false after = ',' :: rest)
    {fuel : Nat} (later : items? reader fuel rest = some (items, left)) :
    items? reader (fuel + 1) cs = some (item :: items, left) := by
  unfold items?
  split
  · next closed =>
      rw [← opened, closed] at unclosed
      exact absurd rfl unclosed
  · simp [opened, read, parted, later]

theorem WritesScalar.unclosed {text : Chars} (written : WritesScalar item text) (rest : Chars) :
    (text ++ rest).head? ≠ some ']' := by
  obtain ⟨c, more, rfl, other⟩ := written.begins
  rintro same
  cases same
  exact other (by decide)

theorem items?_written
    (reads : ∀ {value text rest}, WritesScalar value text → Delimited rest →
      reader (text ++ rest) = some (value, rest))
    {text : Chars} (written : WritesItems items text) (rest : Chars)
    {fuel : Nat} (enough : text.length ≤ fuel) :
    items? reader fuel (text ++ rest) = some (items, rest) := by
  induction written generalizing fuel with
  | @none gap filler =>
      obtain ⟨fuel, rfl⟩ := Nat.exists_eq_add_one.mpr (show 0 < fuel by grind)
      apply items?_close
      rw [List.append_assoc, skipFiller_filler filler]
      rfl
  | @last item before text behind leads written trails =>
      obtain ⟨fuel, rfl⟩ := Nat.exists_eq_add_one.mpr (show 0 < fuel by grind)
      have delimited := trails.delimited.append (delimited_cons ']' (by decide) rest)
      simp only [List.append_assoc, List.singleton_append]
      apply items?_last _ (written.unclosed _) (reads written delimited)
      · rw [skipFiller_filler trails]
        rfl
      · rw [skipFiller_filler leads, skipFiller_scalar written]
  | @next item items before text behind more leads written trails later ih =>
      obtain ⟨fuel, rfl⟩ := Nat.exists_eq_add_one.mpr (show 0 < fuel by grind)
      have delimited := trails.delimited.append (delimited_cons ',' (by decide) (more ++ rest))
      simp only [List.append_assoc, List.cons_append]
      apply items?_next _ (written.unclosed _) (reads written delimited) _ (ih (by grind))
      · rw [skipFiller_filler leads, skipFiller_scalar written]
      · rw [skipFiller_filler trails]
        rfl

end Items

theorem value?_written {value : Value} {text rest : Chars} (written : WritesValue value text)
    (delimited : Delimited rest) {fuel : Nat} (enough : text.length ≤ fuel) (depth : Nat) :
    value? fuel (depth + 1) (text ++ rest) = some (value, rest) := by
  cases written with
  | scalar written => exact value?_scalar fuel (depth + 1) written delimited
  | array written =>
      rw [List.length_cons] at enough
      have read := items?_written (value?_scalar fuel depth) written rest (Nat.le_of_lt enough)
      simp [value?, read]

/-! ## Lines -/

theorem bareKey?_written {name rest : Chars} (named : name ≠ [])
    (bare : ∀ c ∈ name, isBare c = true) (ends : ∀ c, rest.head? = some c → isBare c = false) :
    bareKey? (name ++ rest) = some (String.ofList name, rest) := by
  have restLeft : rest.takeWhile isBare = [] ∧ rest.dropWhile isBare = rest := by
    cases rest with
    | nil => exact ⟨rfl, rfl⟩
    | cons c more => simp [ends c rfl]
  have taken : (name ++ rest).takeWhile isBare = name := by
    rw [List.takeWhile_append_of_pos bare, restLeft.1, List.append_nil]
  have left : (name ++ rest).dropWhile isBare = rest := by
    rw [List.dropWhile_append_of_pos bare, restLeft.2]
  unfold bareKey?
  rw [taken, left]
  split
  · contradiction
  · rfl

theorem isBare_ne {c other : Char} (bare : isBare c = true) (odd : isBare other = false) :
    c ≠ other := by
  rintro rfl
  exact Bool.false_ne_true (odd.symm.trans bare)

theorem isBare_visible {c : Char} (bare : isBare c = true) : isBlank c = false := by
  have noSpace : c ≠ ' ' := isBare_ne bare (by decide)
  have noTab : c ≠ '\t' := isBare_ne bare (by decide)
  simp [isBlank, noSpace, noTab]

theorem key?_written {name gap : Chars} (named : name ≠ [])
    (bare : ∀ c ∈ name, isBare c = true) (parts : Blank gap) (rest : Chars) :
    key? (name ++ (gap ++ '=' :: rest)) = some ([String.ofList name], '=' :: rest) := by
  have ends : ∀ c, (gap ++ '=' :: rest).head? = some c → isBare c = false := by
    cases gap with
    | nil =>
        rintro c same
        cases same
        decide
    | cons d more =>
        rintro c same
        cases same
        rcases parts d List.mem_cons_self with rfl | rfl <;> decide
  have simple : simpleKey? (skipBlanks (name ++ (gap ++ '=' :: rest))) =
      some (String.ofList name, gap ++ '=' :: rest) := by
    have read := bareKey?_written named bare ends
    cases name with
    | nil => contradiction
    | cons c more =>
        have self := bare c List.mem_cons_self
        have noDouble : c ≠ '"' := isBare_ne self (by decide)
        have noSingle : c ≠ '\'' := isBare_ne self (by decide)
        rw [List.cons_append, skipBlanks_cons (isBare_visible self)]
        simpa [simpleKey?, noDouble, noSingle] using read
  have after : skipBlanks (gap ++ '=' :: rest) = '=' :: rest := by
    rw [skipBlanks_blank parts]
    rfl
  have whole : keyParts? (name ++ (gap ++ '=' :: rest)) =
      some ([String.ofList name], '=' :: rest) := by
    rw [keyParts?]
    split
    · next unread => simp [simple] at unread
    · next read =>
        rw [simple] at read
        cases read
        split
        · next dotted => simp [after] at dotted
        · rw [after]
  simp [key?, whole, maxDepth]

theorem assignment?_written {reader : ValueReader} {name gap space text rest : Chars}
    {value : Value} (named : name ≠ []) (bare : ∀ c ∈ name, isBare c = true) (parts : Blank gap)
    (spaces : Blank space) (written : WritesValue value text)
    (read : reader (text ++ rest) = some (value, rest)) :
    assignment? reader (name ++ (gap ++ '=' :: (space ++ (text ++ rest)))) =
      some (([String.ofList name], value), rest) := by
  have after : skipBlanks (space ++ (text ++ rest)) = text ++ rest := by
    rw [skipBlanks_blank spaces, skipBlanks_value written]
  simp [assignment?, key?_written named bare parts, after, read]

theorem statement?_assign {fuel : Nat} {cs left more : Chars} {key : List String} {value : Value}
    (unbracketed : cs.head? ≠ some '[')
    (read : assignment? (value? fuel maxNesting) cs = some ((key, value), left))
    (ended : endLine? left = some more) :
    statement? fuel cs = some (.assign key value, more) := by
  unfold statement?
  split
  · contradiction
  · contradiction
  · simp [read, ended]

/-- What is left of a line from its first character on. -/
theorem statement?_written {entry : String × Value} {text rest more : Chars}
    (line : WritesEntry entry text) (ends : Ends rest more) {fuel : Nat}
    (enough : text.length ≤ fuel) :
    ∃ c later, skipBlanks (text ++ rest) = c :: later ∧ isBare c = true ∧
      statement? fuel (c :: later) = some (.assign [entry.1] entry.2, more) := by
  cases line with
  | @entry name lead gap space text tail value named bare leads parts spaces written trails =>
      have delimited := trails.delimited.append ends.delimited
      have read := value?_written written delimited (show _ ≤ fuel by grind) (maxNesting - 1)
      have assigned := assignment?_written named bare parts spaces written read
      simp only [List.append_assoc, List.cons_append]
      rw [skipBlanks_blank leads]
      cases name with
      | nil => contradiction
      | cons c later =>
          have self := bare c List.mem_cons_self
          have noBracket : c ≠ '[' := isBare_ne self (by decide)
          refine ⟨c, later ++ (gap ++ '=' :: (space ++ (text ++ (tail ++ rest)))), ?_, self, ?_⟩
          · exact skipBlanks_cons (isBare_visible self) _
          · exact statement?_assign (by simp [noBracket]) assigned (endLine?_tail trails ends)

/-! ## Documents -/

theorem Ends.length {rest more : Chars} (ends : Ends rest more) : more.length ≤ rest.length := by
  cases ends <;> simp

theorem WritesEntry.length {entry : String × Value} {text : Chars} (line : WritesEntry entry text) :
    0 < text.length := by
  cases line
  simp only [List.length_append, List.length_cons]
  omega

theorem statements?_nil (fuel : Nat) : statements? (fuel + 1) [] = some [] := by
  simp [statements?, skipBlanks]

theorem statements?_tail {tail ending : Chars} (trails : Tail tail) (ends : LineEnd ending)
    (fuel : Nat) (more : Chars) :
    statements? (fuel + 1) (tail ++ (ending ++ more)) = statements? fuel more := by
  cases trails with
  | blank blank =>
      rw [statements?, skipBlanks_blank blank]
      cases ends <;> rfl
  | @comment gap remark blank plain =>
      have ended := endLine?_remark plain (.line ends : Ends (ending ++ more) more)
      rw [statements?, List.append_assoc, skipBlanks_blank blank, List.cons_append,
        skipBlanks_cons (by decide)]
      simp [ended]

theorem statements?_last {tail : Chars} (trails : Tail tail) {fuel : Nat}
    (enough : tail.length ≤ fuel) : statements? (fuel + 1) tail = some [] := by
  cases trails with
  | blank blank =>
      have skipped := skipBlanks_blank blank []
      rw [List.append_nil] at skipped
      rw [statements?, skipped]
      rfl
  | @comment gap remark blank plain =>
      have ended := endLine?_remark plain .nothing
      rw [List.append_nil] at ended
      obtain ⟨fuel, rfl⟩ := Nat.exists_eq_add_one.mpr (show 0 < fuel by grind)
      rw [statements?, skipBlanks_blank blank, skipBlanks_cons (by decide)]
      simp [ended, statements?_nil]

theorem statements?_written {entries : Entries} {text : Chars} (written : WritesLines entries text)
    {fuel : Nat} (enough : text.length < fuel) :
    statements? fuel text = some (entries.map fun entry => .assign [entry.1] entry.2) := by
  induction written generalizing fuel with
  | none trails =>
      obtain ⟨fuel, rfl⟩ := Nat.exists_eq_add_one.mpr (show 0 < fuel by omega)
      exact statements?_last trails (Nat.le_of_lt_succ enough)
  | @idle entries tail ending more trails ends later ih =>
      obtain ⟨fuel, rfl⟩ := Nat.exists_eq_add_one.mpr (show 0 < fuel by omega)
      have shorter : more.length < fuel := by
        cases ends <;> simp at enough <;> omega
      rw [statements?_tail trails ends, ih shorter]
  | @entry entry entries text rest more line ends later ih =>
      obtain ⟨fuel, rfl⟩ := Nat.exists_eq_add_one.mpr (show 0 < fuel by omega)
      rw [List.length_append] at enough
      obtain ⟨c, after, skipped, bare, stated⟩ :=
        statement?_written line ends (show text.length ≤ fuel by omega)
      have shorter : more.length < fuel := by
        have entered := line.length
        have left := ends.length
        omega
      have noRemark : c ≠ '#' := isBare_ne bare (by decide)
      have noFeed : c ≠ '\n' := isBare_ne bare (by decide)
      have noReturn : c ≠ '\r' := isBare_ne bare (by decide)
      have noEnd : newline? (c :: after) = none := by
        simp [newline?, noFeed, noReturn]
      rw [statements?, skipped]
      simp [noRemark, noEnd, stated, ih shorter]

theorem assign_new {key : String} {entries : Entries} (absent : key ∉ entries.map (·.1))
    (value : Value) : assign [key] value entries = some (entries ++ [(key, value)]) := by
  have missing : entries.lookup key = none := by
    rw [List.lookup_eq_none_iff]
    rintro entry member
    simp only [bne_iff_ne]
    rintro rfl
    exact absent (List.mem_map_of_mem member)
  simp [assign, splitKey, within, addNew, missing]

/-- Assignments to keys that are not yet there go behind what is there. -/
theorem foldlM_assign (later : Entries) (assembly : Assembly)
    (distinct : ((assembly.current ++ later).map (·.1)).Nodup) :
    (later.map fun entry => Statement.assign [entry.1] entry.2).foldlM Assembly.step assembly =
      some { assembly with current := assembly.current ++ later } := by
  induction later generalizing assembly with
  | nil => simp
  | cons entry later ih =>
      have absent : entry.1 ∉ assembly.current.map (·.1) := by
        rw [List.map_append, List.nodup_append] at distinct
        intro member
        exact distinct.2.2 _ member _ List.mem_cons_self rfl
      have step : assembly.step (.assign [entry.1] entry.2) =
          some { assembly with current := assembly.current ++ [entry] } := by
        simp [Assembly.step, assign_new absent]
      have rest :=
        ih { assembly with current := assembly.current ++ [entry] } (by simpa using distinct)
      rw [List.map_cons, List.foldlM_cons, step]
      simpa using rest

theorem WritesLines.unmarked {entries : Entries} {text : Chars}
    (written : WritesLines entries text) : skipMark text = text := by
  have delimitedUnmarked {cs : Chars} (delimited : Delimited cs) : cs.head? ≠ some '\ufeff' := by
    intro marked
    exact absurd (delimited _ marked) (by decide)
  have unmarked : text.head? ≠ some '\ufeff' := by
    cases written with
    | none trails => exact delimitedUnmarked trails.delimited
    | idle trails ends later =>
        exact delimitedUnmarked (trails.delimited.append (ends.delimited _))
    | entry line ends later =>
        cases line with
        | @entry name lead gap space text tail value named bare leads parts spaces written trails =>
            cases lead with
            | cons c more =>
                intro marked
                cases marked
                rcases leads '\ufeff' List.mem_cons_self with same | same <;> revert same <;> decide
            | nil =>
                cases name with
                | nil => contradiction
                | cons c more =>
                    intro marked
                    cases marked
                    exact absurd (bare '\ufeff' List.mem_cons_self) (by decide)
  unfold skipMark
  split
  · contradiction
  · rfl

/-- A document that is made of lines is read as what the lines say, in their order. -/
theorem parse?_written {entries : Entries} {text : String}
    (written : WritesLines entries text.toList) (distinct : (entries.map (·.1)).Nodup) :
    parse? text = some entries := by
  have stated := statements?_written written (Nat.lt_succ_self _)
  have assembled := foldlM_assign entries {} distinct
  simp only [parse?, written.unmarked, stated, assemble]
  change Option.bind (List.foldlM _ _ _) _ = _
  rw [assembled]
  simp [Assembly.finish]

end PacketRelay.Document
