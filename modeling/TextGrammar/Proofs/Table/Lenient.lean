import TextGrammar.Proofs.Table.Text

/-!
Contract: the lenient reader of tables reads lenient texts of tables, and every one of them.

Owns:
- the language of the lenient reader;
- that a text of it is a lenient text, so that no two rows come from one line;
- that a lenient text is one of it where nothing can continue the table.

Nothing in the lists themselves keeps two fields or two rows apart. It is the fields: a name stops
only before a character that is no letter, and a number before one that is no digit.
-/

namespace TextGrammar.Table

/-- The fields of a row, as the lenient reader takes them. -/
abbrev rowLanguage : Language (List UInt64) :=
  Language.numeral.separated ','

/-- A table, as the lenient reader takes it. -/
abbrev lenientLanguage : Language Table :=
  languageWith (Language.word.separated ',') (rowLanguage.separated '\n')

theorem reads_lenient : lenient.Reads lenientLanguage := by
  have headerReads := Parser.reads_letters.separatedBy Language.proper_word ','
  have rowReads := Parser.reads_natural.separatedBy Language.proper_numeral ','
  have rowsReads := rowReads.separatedBy (Language.proper_numeral.separated ',') '\n'
  exact reads_parserWith headerReads rowsReads

/-! ### Soundness -/

private theorem looselyJoined_of_rowLanguage {row : List UInt64} {text rest : List Char}
    (member : rowLanguage row text rest) :
    LooselyJoined Numeral ',' row text :=
  Language.looselyJoined_of_separated
    (fun _ _ _ numeral => numeral.1)
    (fun _ _ _ numeral _ => Language.refuses_numeral numeral.2)
    member

theorem lenientText_of_lenientLanguage {table : Table} {text rest : List Char}
    (member : lenientLanguage table text rest) :
    LenientText table text := by
  obtain ⟨header, rows, textEq, headerMember, rowsMember⟩ := member
  have headerJoined : LooselyJoined Word ',' table.header header :=
    Language.looselyJoined_of_separated
      (fun _ _ _ word => word.1)
      (fun _ _ _ word _ => Language.refuses_word word.2)
      headerMember
  have rowsJoined : LooselyJoined (LooselyJoined Numeral ',') '\n' table.rows rows :=
    Language.looselyJoined_of_separated
      (fun _ _ _ row => looselyJoined_of_rowLanguage row)
      (fun _ _ _ row _ => Language.refuses_of_separated row)
      rowsMember
  exact ⟨header, rows, textEq, headerJoined, rowsJoined⟩

/-! ### Completeness -/

theorem rowLanguage_of_looselyJoined {row : List UInt64} {text rest : List Char}
    (joined : LooselyJoined Numeral ',' row text) (noDigit : ¬ StartsWith Char.isDigit rest)
    (noComma : ¬ StartsWith (· == ',') rest) :
    rowLanguage row text rest :=
  Language.separated_of_looselyJoined joined
    (fun _ _ _ numeral => ⟨numeral, not_startsWith_cons rfl _⟩)
    (fun _ _ numeral => ⟨numeral, noDigit⟩)
    noComma
    (Language.refuses_numeral noDigit)

/-- A header stops before its line feed. -/
theorem headerLanguage_of_looselyJoined {names : List String} {text tail : List Char}
    (joined : LooselyJoined Word ',' names text) :
    (Language.word.separated ',') names text ('\n' :: tail) :=
  Language.separated_of_looselyJoined joined
    (fun _ _ _ word => ⟨word, not_startsWith_cons rfl _⟩)
    (fun _ _ word => ⟨word, not_startsWith_cons rfl _⟩)
    (not_startsWith_cons rfl _)
    (Language.refuses_word (not_startsWith_cons rfl _))

theorem lenientLanguage_of_lenientText {table : Table} {text rest : List Char}
    (lenientText : LenientText table text) (stopped : ¬ StartsWith continuesTable rest) :
    lenientLanguage table text rest := by
  obtain ⟨header, rows, textEq, headerJoined, rowsJoined⟩ := lenientText
  rw [not_startsWith_continuesTable_iff] at stopped
  obtain ⟨⟨noDigit, noComma⟩, noLine⟩ := stopped
  have rowsMember : (rowLanguage.separated '\n') table.rows rows rest :=
    Language.separated_of_looselyJoined rowsJoined
      (fun _ _ _ row => rowLanguage_of_looselyJoined row (not_startsWith_cons rfl _)
        (not_startsWith_cons rfl _))
      (fun _ _ row => rowLanguage_of_looselyJoined row noDigit noComma)
      noLine
      (Language.Refuses.separated (Language.refuses_numeral noDigit) ',')
  exact ⟨header, rows, textEq, headerLanguage_of_looselyJoined headerJoined, rowsMember⟩

/-- What the lenient reader has read is a lenient text of the table it answers. Every lenient text
of a table is read, up to its end, where nothing can continue the table. -/
theorem lenient_sound_and_complete (cursor : Cursor) (table : Table) :
    (∀ next, lenient.parse cursor = .success table next →
      ∃ text, cursor.unread = text ++ next.unread ∧ LenientText table text) ∧
    ∀ text rest, cursor.unread = text ++ rest → LenientText table text →
      ¬ StartsWith continuesTable rest →
      ∃ next, lenient.parse cursor = .success table next ∧ next.unread = rest := by
  constructor
  case left =>
    intro next read
    obtain ⟨text, unreadEq, member, _⟩ := reads_lenient.of_success read
    exact ⟨text, unreadEq, lenientText_of_lenientLanguage member⟩
  case right =>
    intro text rest unreadEq lenientText stopped
    exact (reads_lenient.success_leaving_iff cursor table rest).mpr
      ⟨text, unreadEq, lenientLanguage_of_lenientText lenientText stopped⟩

/-- A comma at the ends of two lines and a line feed after the last one, read up to a semicolon. -/
theorem lenient_reads_every_dangling_separator :
    LenientText ⟨["a", "b"], [[1, 2], [3]]⟩ "a,b,\n1,2,\n3\n".toList ∧
    ∃ next, lenient.parse (Cursor.ofText "a,b,\n1,2,\n3\n;") =
        .success ⟨["a", "b"], [[1, 2], [3]]⟩ next ∧
      next.unread = [';'] ∧
      ∃ text, "a,b,\n1,2,\n3\n;".toList = text ++ next.unread ∧
        LenientText ⟨["a", "b"], [[1, 2], [3]]⟩ text := by
  have nameA : Word "a" ['a'] := ⟨by decide, List.forall_mem_singleton.mpr rfl, rfl⟩
  have nameB : Word "b" ['b'] := ⟨by decide, List.forall_mem_singleton.mpr rfl, rfl⟩
  have one : Numeral 1 ['1'] := ⟨by decide, List.forall_mem_singleton.mpr rfl, rfl⟩
  have two : Numeral 2 ['2'] := ⟨by decide, List.forall_mem_singleton.mpr rfl, rfl⟩
  have three : Numeral 3 ['3'] := ⟨by decide, List.forall_mem_singleton.mpr rfl, rfl⟩
  have header : LooselyJoined Word ',' ["a", "b"] ['a', ',', 'b', ','] :=
    .inr ⟨['a', ',', 'b'], .cons nameA (.single nameB), rfl⟩
  have firstRow : LooselyJoined Numeral ',' [1, 2] ['1', ',', '2', ','] :=
    .inr ⟨['1', ',', '2'], .cons one (.single two), rfl⟩
  have secondRow : LooselyJoined Numeral ',' [3] ['3'] := .inl (.single three)
  have rows : LooselyJoined (LooselyJoined Numeral ',') '\n' [[1, 2], [3]]
      ['1', ',', '2', ',', '\n', '3', '\n'] :=
    .inr ⟨['1', ',', '2', ',', '\n', '3'], .cons firstRow (.single secondRow), rfl⟩
  have lenientText : LenientText ⟨["a", "b"], [[1, 2], [3]]⟩ "a,b,\n1,2,\n3\n".toList :=
    ⟨_, _, rfl, header, rows⟩
  obtain ⟨sound, complete⟩ := lenient_sound_and_complete (Cursor.ofText "a,b,\n1,2,\n3\n;")
    ⟨["a", "b"], [[1, 2], [3]]⟩
  obtain ⟨next, read, nextUnread⟩ := complete _ [';'] rfl lenientText (by decide)
  exact ⟨lenientText, next, read, nextUnread, sound next read⟩

end TextGrammar.Table
