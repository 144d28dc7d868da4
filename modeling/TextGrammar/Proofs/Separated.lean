import TextGrammar.Proofs.Lexemes

/-!
Contract: the exact languages of separated lists whose separator is one character.

Owns:
- `Joined`, the texts of items with a separator between each two, `LooselyJoined`, in which one
  more may follow the last item, and `Ended`, in which one follows every item;
- what joined texts can end in, and where a separator can stand in them;
- that `separatedList` reads joined texts, and how it fails at the end of an ended one;
- the language of `separatedBy`, and that it holds the loosely joined texts if no item can begin
  where another has just stopped.

A list of the first kind is committed by its separator, so what follows it begins with none. One of
the second kind takes the separator with the item before it, and asks again whether an item begins.
-/

namespace TextGrammar

variable {α : Type}

/-! ### The ends of a text -/

theorem singleton_suffix_append_iff {mark : Char} (left : List Char) {right : List Char}
    (filled : right ≠ []) :
    [mark] <:+ left ++ right ↔ [mark] <:+ right := by
  rw [List.singleton_suffix_iff_getLast?_eq_some, List.singleton_suffix_iff_getLast?_eq_some,
    List.getLast?_append, List.getLast?_eq_some_getLast filled, Option.some_or]

theorem suffix_of_cut (left : List Char) (separator : Char) (right : List Char) :
    right <:+ left ++ separator :: right :=
  (List.suffix_cons separator right).trans (List.suffix_append left _)

theorem pair_infix_of_suffix {mark : Char} {left : List Char} (ends : [mark] <:+ left)
    (separator : Char) (right : List Char) :
    [mark, separator] <:+: left ++ separator :: right := by
  obtain ⟨kept, rfl⟩ := ends
  refine ⟨kept, right, ?_⟩
  rw [List.append_assoc, List.append_assoc]
  rfl

/-- Where a text is cut before a character, two characters with that one second stand on one side,
or the first of them is at the end of the left side. -/
theorem pair_infix_of_cut {mark separator : Char} (different : mark ≠ separator)
    {left right : List Char} (found : [mark, separator] <:+: left ++ separator :: right) :
    [mark, separator] <:+: left ∨ [mark] <:+ left ∨ [mark, separator] <:+: right := by
  rw [List.infix_append_iff_ne_nil] at found
  rcases found with found | found | ⟨before, after, beforeFilled, afterFilled, split, ends, _⟩
  · exact .inl found
  · rw [List.infix_cons_iff, List.cons_prefix_cons] at found
    rcases found with ⟨same, _⟩ | found
    · exact absurd same different
    · exact .inr (.inr found)
  · cases before with
    | nil => exact absurd rfl beforeFilled
    | cons head others =>
        rw [List.cons_append, List.cons.injEq] at split
        obtain ⟨rfl, split⟩ := split
        have othersEq : others = [] := by
          cases others with
          | nil => rfl
          | cons second following =>
              have nothing := (List.cons.inj split).2
              exact absurd (List.append_eq_nil_iff.mp nothing.symm).2 afterFilled
        rw [othersEq] at ends
        exact .inr (.inl ends)

/-! ### Joined texts -/

/-- The texts of items in order, with a separator between each two. -/
inductive Joined (item : α → List Char → Prop) (separator : Char) : List α → List Char → Prop where
  | single {value : α} {text : List Char} (only : item value text) :
      Joined item separator [value] text
  | cons {value : α} {values : List α} {head tail : List Char} (first : item value head)
      (others : Joined item separator values tail) :
      Joined item separator (value :: values) (head ++ separator :: tail)

section Joined

variable {item : α → List Char → Prop} {separator : Char} {values : List α} {text : List Char}

theorem Joined.ne_nil (joined : Joined item separator values text) : values ≠ [] := by
  cases joined with
  | single => exact List.cons_ne_nil _ _
  | cons => exact List.cons_ne_nil _ _

theorem Joined.text_ne_nil (joined : Joined item separator values text)
    (proper : ∀ value text, item value text → text ≠ []) : text ≠ [] := by
  cases joined with
  | single only => exact proper _ _ only
  | cons => exact List.append_ne_nil_of_right_ne_nil _ (List.cons_ne_nil _ _)

theorem Joined.imp {other : α → List Char → Prop}
    (weaker : ∀ value text, item value text → other value text)
    (joined : Joined item separator values text) : Joined other separator values text := by
  induction joined with
  | single only => exact .single (weaker _ _ only)
  | cons first _ inductionHypothesis => exact .cons (weaker _ _ first) inductionHypothesis

theorem Joined.not_mem {mark : Char} (different : mark ≠ separator)
    (outside : ∀ value text, item value text → mark ∉ text)
    (joined : Joined item separator values text) : mark ∉ text := by
  induction joined with
  | single only => exact outside _ _ only
  | cons first others inductionHypothesis =>
      rw [List.mem_append, List.mem_cons]
      intro member
      rcases member with member | same | member
      · exact outside _ _ first member
      · exact different same
      · exact inductionHypothesis member

/-- What no item ends in, joined items do not end in. -/
theorem Joined.not_suffix {mark : Char} (proper : ∀ value text, item value text → text ≠ [])
    (outside : ∀ value text, item value text → ¬ [mark] <:+ text)
    (joined : Joined item separator values text) : ¬ [mark] <:+ text := by
  induction joined with
  | single only => exact outside _ _ only
  | @cons value values head tail first others inductionHypothesis =>
      have filled := others.text_ne_nil proper
      rw [List.append_cons, singleton_suffix_append_iff _ filled]
      exact inductionHypothesis

/-- A mark before a separator would be the end of an item. -/
theorem Joined.not_pair_infix {mark : Char} (different : mark ≠ separator)
    (within : ∀ value text, item value text → ¬ [mark, separator] <:+: text)
    (outside : ∀ value text, item value text → ¬ [mark] <:+ text)
    (joined : Joined item separator values text) : ¬ [mark, separator] <:+: text := by
  induction joined with
  | single only => exact within _ _ only
  | cons first others inductionHypothesis =>
      intro found
      rcases pair_infix_of_cut different found with found | found | found
      · exact within _ _ first found
      · exact outside _ _ first found
      · exact inductionHypothesis found

theorem Joined.exists_text_of_mem (joined : Joined item separator values text) {value : α}
    (member : value ∈ values) :
    ∃ part, item value part := by
  induction joined with
  | single only =>
      rw [List.mem_singleton] at member
      rw [member]
      exact ⟨_, only⟩
  | cons first others inductionHypothesis =>
      rcases List.mem_cons.mp member with rfl | member
      · exact ⟨_, first⟩
      · exact inductionHypothesis member

/-- Texts put together with a separator between them are joined. -/
theorem joined_intercalate (textOf : α → List Char) (filled : values ≠ [])
    (items : ∀ value ∈ values, item value (textOf value)) :
    Joined item separator values ([separator].intercalate (values.map textOf)) := by
  induction values with
  | nil => exact absurd rfl filled
  | cons value others inductionHypothesis =>
      have head := items value List.mem_cons_self
      cases others with
      | nil =>
          rw [List.map_cons, List.map_nil, List.intercalate_singleton]
          exact .single head
      | cons second following =>
          have tail := inductionHypothesis (List.cons_ne_nil second following)
            fun other member => items other (List.mem_cons_of_mem value member)
          rw [List.map_cons, List.map_cons, List.intercalate_cons_cons, ← List.map_cons,
            List.append_assoc]
          exact .cons head tail

end Joined

/-- The texts of items in order, with a separator between each two and perhaps one at the end. -/
def LooselyJoined (item : α → List Char → Prop) (separator : Char) (values : List α)
    (text : List Char) : Prop :=
  Joined item separator values text ∨
    ∃ joined, Joined item separator values joined ∧ text = joined ++ [separator]

theorem LooselyJoined.exists_joined {item : α → List Char → Prop} {separator : Char}
    {values : List α} {text : List Char} (loose : LooselyJoined item separator values text) :
    ∃ joined, Joined item separator values joined := by
  rcases loose with joined | ⟨shorter, joined, _⟩
  · exact ⟨text, joined⟩
  · exact ⟨shorter, joined⟩

theorem LooselyJoined.joined_of_not_suffix {item : α → List Char → Prop} {separator : Char}
    {values : List α} {text : List Char} (loose : LooselyJoined item separator values text)
    (bare : ¬ [separator] <:+ text) : Joined item separator values text := by
  rcases loose with joined | ⟨joinedText, joined, rfl⟩
  · exact joined
  · exact absurd (List.suffix_append joinedText [separator]) bare

/-- Lines that end in no mark, together and each by itself, are joined also inside. -/
theorem Joined.joined_of_looselyJoined {item : α → List Char → Prop} {mark separator : Char}
    {lines : List (List α)} {text : List Char}
    (joined : Joined (LooselyJoined item mark) separator lines text)
    (noPair : ¬ [mark, separator] <:+: text) (bare : ¬ [mark] <:+ text) :
    Joined (Joined item mark) separator lines text := by
  induction joined with
  | single only => exact .single (only.joined_of_not_suffix bare)
  | @cons line lines head tail first others inductionHypothesis =>
      have headBare : ¬ [mark] <:+ head :=
        fun ends => noPair (pair_infix_of_suffix ends separator tail)
      have tailSuffix := suffix_of_cut head separator tail
      have tailJoined := inductionHypothesis
        (fun found => noPair (found.trans tailSuffix.isInfix))
        (fun ends => bare (ends.trans tailSuffix))
      exact .cons (first.joined_of_not_suffix headBare) tailJoined

/-- The texts of items in order, each with the separator after it. -/
inductive Ended (item : α → List Char → Prop) (separator : Char) : List α → List Char → Prop where
  | nil : Ended item separator [] []
  | cons {value : α} {values : List α} {head tail : List Char} (first : item value head)
      (others : Ended item separator values tail) :
      Ended item separator (value :: values) (head ++ separator :: tail)

namespace Language

/-- What a committed list reads: joined items, where no separator follows. -/
abbrev joined (item : α → List Char → Prop) (stop : List Char → Prop) (separator : Char) :
    Language (List α) :=
  upTo (Joined item separator) fun rest => stop rest ∧ ¬ StartsWith (· == separator) rest

/-- A text of the language, and the separator after it if there is one. -/
def element (language : Language α) (separator : Char) : Language α :=
  fun value text rest =>
    language value text rest ∧ ¬ StartsWith (· == separator) rest ∨
      ∃ kept, text = kept ++ [separator] ∧ language value kept (separator :: rest)

/-- What a lenient list reads: elements, until none follows. -/
abbrev separated (language : Language α) (separator : Char) : Language (List α) :=
  (language.element separator).repeatedOnce

theorem Proper.element {language : Language α} (proper : language.Proper) (separator : Char) :
    (language.element separator).Proper := by
  intro value text rest member
  rcases member with ⟨member, _⟩ | ⟨kept, rfl, _⟩
  · exact proper value text rest member
  · exact List.append_ne_nil_of_right_ne_nil kept (List.cons_ne_nil separator [])

theorem Proper.separated {language : Language α} (proper : language.Proper) (separator : Char) :
    (language.separated separator).Proper := by
  intro values text rest member
  obtain ⟨filled, repeated⟩ := member
  cases repeated with
  | stop => exact absurd rfl filled
  | step first others =>
      exact List.append_ne_nil_of_left_ne_nil (proper.element separator _ _ _ first) _

end Language

namespace Parser

section SeparatedList

variable {item : α → List Char → Prop} {stop : List Char → Prop} {separator : Char}
  {parser : Parser α} {cursor between : Cursor} {value : α}

/-- Items that are never empty consume, also after a separator. -/
private theorem Reads.second_consumes (reads : parser.Reads (.upTo item stop))
    (proper : ∀ value text, item value text → text ≠ []) (separator : Char) :
    (Parser.second (char separator) parser).Consumes :=
  .second_of_advances (reads_char separator).advances
    (reads.consumes fun value text _ member => proper value text member.1)

private theorem readsAt_separatedList_of_failure (reads : parser.Reads (.upTo item stop))
    (opens : ∀ tail, stop (separator :: tail)) {reason : Failure}
    (failed : parser.parse cursor = .failure reason) :
    (separatedList parser (char separator)).ReadsAt (.joined item stop separator)
      cursor := by
  have refused := (reads cursor).refuses_of_failure failed
  refine readsAt_of_failure (parse_separatedList_of_failure failed)
    fun values text rest unreadEq member => ?_
  obtain ⟨joined, stopped, _⟩ := member
  cases joined with
  | single only => exact refused _ _ _ unreadEq ⟨only, stopped⟩
  | cons first others =>
      rw [List.append_assoc] at unreadEq
      exact refused _ _ _ unreadEq ⟨first, opens _⟩

private theorem readsAt_separatedList_of_last (reads : parser.Reads (.upTo item stop))
    (opens : ∀ tail, stop (separator :: tail))
    (read : parser.parse cursor = .success value between)
    (stopped : ¬ StartsWith (· == separator) between.unread) :
    (separatedList parser (char separator)).ReadsAt (.joined item stop separator)
      cursor := by
  have noSeparator : between.current ≠ some separator := by
    rw [Ne, Cursor.current_eq_some_iff]
    exact stopped
  have parseEq := parse_separatedList_of_last read (parse_char_of_ne noSeparator)
  obtain ⟨head, headEq, ⟨headItem, headStop⟩, betweenEq⟩ := reads.of_success read
  refine ⟨by rw [parseEq]; exact Outcome.returns_success [value] between, fun values next => ?_⟩
  rw [parseEq]
  constructor
  · intro same
    cases same
    exact ⟨head, between.unread, headEq, ⟨.single headItem, headStop, stopped⟩, betweenEq⟩
  · intro found
    obtain ⟨text, rest, unreadEq, ⟨joined, restStop, _⟩, rfl⟩ := found
    cases joined with
    | single only =>
        obtain ⟨rfl, rfl, _⟩ := reads.eq_of_success read unreadEq ⟨only, restStop⟩
        rfl
    | cons first others =>
        rw [List.append_assoc] at unreadEq
        obtain ⟨_, _, restEq⟩ := reads.eq_of_success read unreadEq ⟨first, opens _⟩
        rw [restEq, List.cons_append, startsWith_cons, beq_self_eq_true] at stopped
        exact absurd rfl stopped

private theorem readsAt_separatedList_of_more (reads : parser.Reads (.upTo item stop))
    (opens : ∀ tail, stop (separator :: tail))
    (consumes : (second (char separator) parser).Consumes)
    (read : parser.parse cursor = .success value between)
    (separated : between.current = some separator)
    (tailReads : (separatedList parser (char separator)).ReadsAt
      (.joined item stop separator) between.next) :
    (separatedList parser (char separator)).ReadsAt (.joined item stop separator)
      cursor := by
  have parseEq := parse_separatedList_of_more consumes read (parse_char_of_current separated)
  obtain ⟨head, headEq, ⟨headItem, headStop⟩, betweenEq⟩ := reads.of_success read
  obtain ⟨following, betweenUnread⟩ := Cursor.exists_unread_of_current separated
  have nextUnread := Cursor.unread_next_of_unread betweenUnread
  refine ⟨by rw [parseEq]; exact tailReads.returns.map _, fun values next => ?_⟩
  rw [parseEq, Outcome.map_eq_success_iff]
  constructor
  · intro found
    obtain ⟨others, readOthers, rfl⟩ := found
    obtain ⟨tail, rest, tailEq, ⟨tailJoined, stops⟩, rfl⟩ :=
      (tailReads.success_iff others next).mp readOthers
    rw [nextUnread] at tailEq
    refine ⟨head ++ separator :: tail, rest, ?_, ⟨.cons headItem tailJoined, stops⟩, ?_⟩
    · rw [headEq, betweenUnread, tailEq, List.append_assoc, List.cons_append]
    · rw [betweenEq, List.length_append, Cursor.advance_add, List.length_cons,
        Cursor.advance_succ]
  · intro found
    obtain ⟨text, rest, unreadEq, ⟨joined, stopped, noSeparator⟩, rfl⟩ := found
    cases joined with
    | single only =>
        obtain ⟨_, _, restEq⟩ := reads.eq_of_success read unreadEq ⟨only, stopped⟩
        rw [← restEq, betweenUnread, startsWith_cons, beq_self_eq_true] at noSeparator
        exact absurd rfl noSeparator
    | @cons first others firstText othersText firstItem othersJoined =>
        rw [List.append_assoc] at unreadEq
        obtain ⟨rfl, rfl, restEq⟩ := reads.eq_of_success read unreadEq ⟨firstItem, opens _⟩
        rw [betweenUnread, List.cons_append, List.cons.injEq] at restEq
        have readOthers := tailReads.success (nextUnread.trans restEq.2)
          ⟨othersJoined, stopped, noSeparator⟩
        refine ⟨others, ?_, rfl⟩
        rw [readOthers, List.length_append, Cursor.advance_add, List.length_cons,
          Cursor.advance_succ]

/-- A committed list reads joined items, up to where no separator follows. -/
theorem Reads.separatedList (reads : parser.Reads (.upTo item stop))
    (proper : ∀ value text, item value text → text ≠ [])
    (opens : ∀ tail, stop (separator :: tail)) :
    (separatedList parser (char separator)).Reads (.joined item stop separator) := by
  have consumes := reads.second_consumes proper separator
  intro cursor
  -- By induction on what is left to read: after a separator the list begins anew.
  induction lengthEq : cursor.unread.length using Nat.strongRecOn generalizing cursor with
  | ind length inductionHypothesis =>
      cases read : parser.parse cursor with
      | endless => exact absurd read (reads cursor).returns
      | failure reason => exact readsAt_separatedList_of_failure reads opens read
      | success value between =>
          by_cases separated : between.current = some separator
          · refine readsAt_separatedList_of_more reads opens consumes read separated ?_
            have notLonger := reads.advances.unread_length_le read
            obtain ⟨following, betweenUnread⟩ := Cursor.exists_unread_of_current separated
            rw [betweenUnread, List.length_cons] at notLonger
            refine inductionHypothesis _ ?_ between.next rfl
            rw [Cursor.unread_next_of_unread betweenUnread]
            omega
          · rw [Cursor.current_eq_some_iff] at separated
            exact readsAt_separatedList_of_last reads opens read separated

/-- After items that are all ended by a separator, a committed list fails as the next item does. -/
theorem parse_separatedList_of_ended (reads : parser.Reads (.upTo item stop))
    (proper : ∀ value text, item value text → text ≠ [])
    (opens : ∀ tail, stop (separator :: tail)) {values : List α} {text rest : List Char}
    (ended : Ended item separator values text) {reason : Failure}
    (failed : ∀ place : Cursor, place.unread = rest → parser.parse place = .failure reason)
    (unreadEq : cursor.unread = text ++ rest) :
    (separatedList parser (char separator)).parse cursor = .failure reason := by
  have consumes := reads.second_consumes proper separator
  induction ended generalizing cursor with
  | nil => exact parse_separatedList_of_failure (failed cursor unreadEq)
  | @cons value values head tail first _ inductionHypothesis =>
      rw [List.append_assoc] at unreadEq
      have read := (reads cursor).success unreadEq ⟨first, opens _⟩
      have placeUnread := Cursor.unread_advance_length unreadEq
      have separated := Cursor.current_of_unread placeUnread
      have nextUnread := Cursor.unread_next_of_unread placeUnread
      rw [parse_separatedList_of_more consumes read (parse_char_of_current separated),
        inductionHypothesis nextUnread, Outcome.map_failure]

end SeparatedList

theorem Reads.element {parser : Parser α} {language : Language α} (reads : parser.Reads language)
    (separator : Char) :
    (element parser (char separator)).Reads (language.element separator) := by
  rw [element_eq_bind]
  refine (reads.bind fun value =>
    ((reads_char separator).map fun _ => value).orElse (reads_succeed value)).congr
      fun value text rest => ?_
  constructor
  · intro member
    obtain ⟨first, kept, following, rfl, keptMember, either⟩ := member
    rcases either with ⟨_, ⟨_, rfl⟩, rfl⟩ | ⟨refused, rfl, rfl⟩
    · exact .inr ⟨kept, rfl, keptMember⟩
    · rw [Language.refuses_mapped_iff, Language.refuses_character_iff] at refused
      refine .inl ⟨?_, refused⟩
      rw [List.append_nil]
      exact keptMember
  · intro either
    rcases either with ⟨member, stopped⟩ | ⟨kept, rfl, member⟩
    · refine ⟨value, text, [], (List.append_nil text).symm, member, .inr ⟨?_, rfl, rfl⟩⟩
      rw [Language.refuses_mapped_iff, Language.refuses_character_iff]
      exact stopped
    · exact ⟨value, kept, [separator], rfl, member, .inl ⟨separator, ⟨rfl, rfl⟩, rfl⟩⟩

theorem Reads.separatedBy {parser : Parser α} {language : Language α}
    (reads : parser.Reads language) (proper : language.Proper) (separator : Char) :
    (separatedBy parser (char separator)).Reads (language.separated separator) :=
  (reads.element separator).many1 (proper.element separator)

end Parser

/-! ### Lenient lists and loosely joined texts -/

namespace Language

variable {language : Language α} {item : α → List Char → Prop} {separator : Char}
  {values : List α} {text rest ahead : List Char}

theorem Refuses.element (refused : language.Refuses ahead) (separator : Char) :
    (language.element separator).Refuses ahead := by
  intro value text rest aheadEq member
  rcases member with ⟨member, _⟩ | ⟨kept, rfl, member⟩
  · exact refused value text rest aheadEq member
  · rw [List.append_assoc] at aheadEq
    exact refused value kept _ aheadEq member

/-- Where a text of the language is refused, its repetition is empty. -/
theorem Repeated.eq_nil_of_refuses (member : language.Repeated values text rest)
    (refused : language.Refuses (text ++ rest)) : values = [] ∧ text = [] := by
  cases member with
  | stop => exact ⟨rfl, rfl⟩
  | step first others =>
      rw [List.append_assoc] at refused
      exact absurd first (refused _ _ _ rfl)

/-- A lenient list is refused where its first item is. -/
theorem Refuses.separated (refused : language.Refuses ahead) (separator : Char) :
    (language.separated separator).Refuses ahead := by
  intro values text rest aheadEq member
  obtain ⟨filled, repeated⟩ := member
  rw [aheadEq] at refused
  exact filled (repeated.eq_nil_of_refuses (refused.element separator)).1

theorem Repeated.refuses (member : language.Repeated values text rest) :
    language.Refuses rest := by
  induction member with
  | stop refused => exact refused
  | step _ _ inductionHypothesis => exact inductionHypothesis

/-- Where a lenient list stops, none can begin. -/
theorem refuses_of_separated (member : language.separated separator values text rest) :
    (language.separated separator).Refuses rest := by
  have refused := member.2.refuses
  intro found foundText foundRest restEq foundMember
  rw [restEq] at refused
  exact foundMember.1 (foundMember.2.eq_nil_of_refuses refused).1

/-- Where a lenient list does not end in a separator, none follows, and its last item is read with
the same text after it. -/
theorem exists_last_of_separated (member : language.separated separator values text rest)
    (bare : ¬ [separator] <:+ text) :
    ¬ StartsWith (· == separator) rest ∧
      ∃ value last, last <:+ text ∧ language value last rest := by
  obtain ⟨filled, repeated⟩ := member
  induction repeated with
  | stop => exact absurd rfl filled
  | @step value values head tail rest first others inductionHypothesis =>
      cases others with
      | stop =>
          rw [List.append_nil] at bare ⊢
          rcases first with ⟨here, noSeparator⟩ | ⟨kept, rfl, _⟩
          · exact ⟨noSeparator, value, head, List.suffix_refl head, here⟩
          · exact absurd (List.suffix_append kept [separator]) bare
      | @step second values secondText tail _ second others =>
          have tailSuffix := List.suffix_append head (secondText ++ tail)
          have tailBare : ¬ [separator] <:+ secondText ++ tail :=
            fun ends => bare (ends.trans tailSuffix)
          obtain ⟨noSeparator, found, last, lastSuffix, here⟩ :=
            inductionHypothesis tailBare (List.cons_ne_nil _ _)
          exact ⟨noSeparator, found, last, lastSuffix.trans tailSuffix, here⟩

/-- What a lenient list reads is loosely joined, if no item begins where another stopped without a
separator: only the last element can then be without one. -/
theorem looselyJoined_of_separated
    (items : ∀ value text rest, language value text rest → item value text)
    (apart : ∀ value text rest, language value text rest → ¬ StartsWith (· == separator) rest →
      language.Refuses rest)
    (member : language.separated separator values text rest) :
    LooselyJoined item separator values text := by
  obtain ⟨filled, repeated⟩ := member
  induction repeated with
  | stop => exact absurd rfl filled
  | @step value values head tail rest first others inductionHypothesis =>
      rcases first with ⟨here, noSeparator⟩ | ⟨kept, rfl, here⟩
      · have refused := (apart _ _ _ here noSeparator).element separator
        obtain ⟨rfl, rfl⟩ := others.eq_nil_of_refuses refused
        rw [List.append_nil]
        exact .inl (.single (items _ _ _ here))
      · have keptItem := items _ _ _ here
        cases others with
        | stop =>
            refine .inr ⟨kept, .single keptItem, ?_⟩
            rw [List.append_nil]
        | step second following =>
            have loose := inductionHypothesis (List.cons_ne_nil _ _)
            rcases loose with joined | ⟨shorter, joined, tailEq⟩
            · refine .inl ?_
              rw [List.append_assoc]
              exact .cons keptItem joined
            · refine .inr ⟨kept ++ separator :: shorter, .cons keptItem joined, ?_⟩
              rw [tailEq, List.append_assoc, List.append_assoc]
              rfl

/-- A lenient list reads an item that a separator ends, and then what it reads there. -/
theorem Repeated.cons_of_item {head tail : List Char} (first : item value head)
    (opens : ∀ value text tail, item value text → language value text (separator :: tail))
    (others : (language.element separator).Repeated values tail rest) :
    (language.element separator).Repeated (value :: values) (head ++ separator :: tail) rest := by
  have headMember : language.element separator value (head ++ [separator]) (tail ++ rest) :=
    .inr ⟨head, rfl, opens value head _ first⟩
  have whole := Repeated.step headMember others
  rw [List.append_assoc] at whole
  exact whole

/-- A lenient list reads items that are all ended by a separator, and then what it reads there. -/
theorem Repeated.of_ended (ended : Ended item separator values text)
    (opens : ∀ value text tail, item value text → language value text (separator :: tail))
    {more : List α} {following : List Char}
    (others : (language.element separator).Repeated more following rest) :
    (language.element separator).Repeated (values ++ more) (text ++ following) rest := by
  induction ended with
  | nil => exact others
  | cons first _ inductionHypothesis =>
      rw [List.append_assoc]
      exact .cons_of_item first opens inductionHypothesis

/-- Joined items with a given end are what a lenient list reads, if its elements do not go on after
the end and nothing begins there. -/
private theorem repeated_of_joined {ending : List Char} (joined : Joined item separator values text)
    (opens : ∀ value text tail, item value text → language value text (separator :: tail))
    (closes : ∀ value text, item value text →
      language.element separator value (text ++ ending) rest)
    (refused : language.Refuses rest) :
    (language.element separator).Repeated values (text ++ ending) rest := by
  induction joined with
  | @single value text only =>
      have last := Repeated.step (closes value text only) (.stop (refused.element separator))
      rw [List.append_nil] at last
      exact last
  | cons first others inductionHypothesis =>
      rw [List.append_assoc]
      exact .cons_of_item first opens inductionHypothesis

/-- Loosely joined items are what a lenient list reads, where neither a separator nor an item
follows. -/
theorem separated_of_looselyJoined (joined : LooselyJoined item separator values text)
    (opens : ∀ value text tail, item value text → language value text (separator :: tail))
    (closes : ∀ value text, item value text → language value text rest)
    (stopped : ¬ StartsWith (· == separator) rest) (refused : language.Refuses rest) :
    language.separated separator values text rest := by
  rcases joined with joined | ⟨text, joined, rfl⟩
  · refine ⟨joined.ne_nil, ?_⟩
    have closesBare : ∀ value text, item value text →
        language.element separator value (text ++ []) rest := by
      intro value text member
      rw [List.append_nil]
      exact .inl ⟨closes value text member, stopped⟩
    have repeated := repeated_of_joined joined opens closesBare refused
    rw [List.append_nil] at repeated
    exact repeated
  · have closesMarked : ∀ value text, item value text →
        language.element separator value (text ++ [separator]) rest :=
      fun value text member => .inr ⟨text, rfl, opens value text rest member⟩
    exact ⟨joined.ne_nil, repeated_of_joined joined opens closesMarked refused⟩

end Language

end TextGrammar
