import TextGrammar.Proofs.Progress

/-!
Contract: the exact languages of parsers.

Owns:
- `StartsWith`, the look at the next character;
- `Language`, which says what value a text stands for where a given text follows it;
- `Reads`: the parser returns everywhere, and its successes are exactly those of the language;
- a language for each combinator, and that the combinator reads it if its parts read theirs.

The text that follows belongs to a language because longest match looks at it: `12` is a number
before a comma and none before another digit.
-/

namespace TextGrammar

/-- The text begins with a character of the class. -/
def StartsWith (accept : Char → Bool) : List Char → Prop
  | [] => False
  | head :: _ => accept head = true

@[simp] theorem not_startsWith_nil (accept : Char → Bool) : ¬ StartsWith accept [] := id

@[simp] theorem startsWith_cons (accept : Char → Bool) (head : Char) (tail : List Char) :
    StartsWith accept (head :: tail) ↔ accept head = true := Iff.rfl

theorem not_startsWith_cons {accept : Char → Bool} {head : Char} (outside : accept head = false)
    (tail : List Char) :
    ¬ StartsWith accept (head :: tail) := by
  rw [startsWith_cons, outside]
  exact Bool.false_ne_true

instance (accept : Char → Bool) (text : List Char) : Decidable (StartsWith accept text) :=
  match text with
  | [] => inferInstanceAs (Decidable False)
  | head :: _ => inferInstanceAs (Decidable (accept head = true))

/-- A text that is not empty begins the same way whatever is put after it. -/
theorem startsWith_append_iff (accept : Char → Bool) {text : List Char} (filled : text ≠ [])
    (rest : List Char) :
    StartsWith accept (text ++ rest) ↔ StartsWith accept text := by
  cases text with
  | nil => exact absurd rfl filled
  | cons head tail => exact Iff.rfl

theorem not_startsWith_append {accept : Char → Bool} {text rest : List Char}
    (textOutside : ∀ character ∈ text, accept character = false)
    (restOutside : ¬ StartsWith accept rest) :
    ¬ StartsWith accept (text ++ rest) := by
  cases text with
  | nil => exact restOutside
  | cons head tail => exact not_startsWith_cons (textOutside head List.mem_cons_self) _

/-- The character under a cursor is what the unread text begins with. -/
theorem Cursor.current_eq_some_iff (cursor : Cursor) (expected : Char) :
    cursor.current = some expected ↔ StartsWith (· == expected) cursor.unread := by
  rw [Cursor.current]
  cases cursor.unread with
  | nil => exact ⟨fun found => by contradiction, False.elim⟩
  | cons head tail => rw [List.head?_cons, Option.some.injEq, startsWith_cons, beq_iff_eq]

/-- After as many steps as a text has characters, what follows the text is left. -/
theorem Cursor.unread_advance_length {cursor : Cursor} {text rest : List Char}
    (unreadEq : cursor.unread = text ++ rest) : (cursor.advance text.length).unread = rest := by
  rw [Cursor.unread_advance, unreadEq, List.drop_left]

/-- `language value text rest` says that `text` stands for `value` where `rest` follows it. -/
abbrev Language (α : Type) : Type :=
  α → List Char → List Char → Prop

namespace Language

variable {α β : Type}

/-- No text of the language stands at the beginning of `ahead`. -/
def Refuses (language : Language α) (ahead : List Char) : Prop :=
  ∀ value text rest, ahead = text ++ rest → ¬ language value text rest

/-- The empty text is not in the language. -/
def Proper (language : Language α) : Prop :=
  ∀ value text rest, language value text rest → text ≠ []

/-- The empty text, for one value. -/
def nothing (given : α) : Language α :=
  fun value text _ => value = given ∧ text = []

/-- The texts of items, where what follows is such as to stop there. -/
def upTo (item : α → List Char → Prop) (stop : List Char → Prop) : Language α :=
  fun value text rest => item value text ∧ stop rest

/-- No text at all. -/
def never : Language α :=
  fun _ _ _ => False

/-- One character of a class. -/
def oneOf (accept : Char → Bool) : Language Char :=
  fun value text _ => accept value = true ∧ text = [value]

/-- One given character. -/
def character (expected : Char) : Language Char :=
  fun value text _ => value = expected ∧ text = [expected]

/-- The texts of a language, for changed values. -/
def mapped (f : α → β) (language : Language α) : Language β :=
  fun value text rest => ∃ first, language first text rest ∧ f first = value

/-- The texts of a language that stand for accepted values. -/
def filtered (language : Language α) (accept : α → Bool) : Language α :=
  fun value text rest => language value text rest ∧ accept value = true

/-- A text of the language, then a text of the language that its value chooses. -/
def chosen (language : Language α) (next : α → Language β) : Language β :=
  fun value text rest => ∃ first firstText nextText, text = firstText ++ nextText ∧
    language first firstText (nextText ++ rest) ∧ next first value nextText rest

/-- A text of the one language, then a text of the other. -/
def paired (left : Language α) (right : Language β) : Language (α × β) :=
  fun value text rest => ∃ leftText rightText, text = leftText ++ rightText ∧
    left value.1 leftText (rightText ++ rest) ∧ right value.2 rightText rest

/-- A text of the first language, then one of the second that stands for nothing. -/
def followed (kept : Language α) (dropped : Language β) : Language α :=
  fun value text rest => ∃ other, paired kept dropped (value, other) text rest

/-- A text of the first language that stands for nothing, then one of the second. -/
def preceded (dropped : Language α) (kept : Language β) : Language β :=
  fun value text rest => ∃ other, paired dropped kept (other, value) text rest

/-- A text of the first language, or one of the second where the first has none. -/
def preferring (preferred alternative : Language α) : Language α :=
  fun value text rest => preferred value text rest ∨
    preferred.Refuses (text ++ rest) ∧ alternative value text rest

/-- Texts of a language one after the other, until none follows. -/
inductive Repeated (language : Language α) : Language (List α) where
  | stop {rest : List Char} (refused : language.Refuses rest) : Repeated language [] [] rest
  | step {value : α} {values : List α} {head tail rest : List Char}
      (first : language value head (tail ++ rest)) (others : Repeated language values tail rest) :
      Repeated language (value :: values) (head ++ tail) rest

/-- One text of a language or more, until none follows. -/
def repeatedOnce (language : Language α) : Language (List α) :=
  fun values text rest => values ≠ [] ∧ language.Repeated values text rest

theorem proper_character (expected : Char) : (character expected).Proper := by
  intro value text rest member
  rw [member.2]
  exact List.cons_ne_nil expected []

theorem refuses_oneOf_iff (accept : Char → Bool) (ahead : List Char) :
    (oneOf accept).Refuses ahead ↔ ¬ StartsWith accept ahead := by
  cases ahead with
  | nil =>
      refine ⟨fun _ => not_startsWith_nil accept, fun _ value text rest aheadEq member => ?_⟩
      rw [member.2] at aheadEq
      contradiction
  | cons head tail =>
      rw [startsWith_cons]
      refine ⟨fun refused accepted => refused head [head] tail rfl ⟨accepted, rfl⟩, ?_⟩
      intro notAccepted value text rest aheadEq member
      rw [member.2] at aheadEq
      cases aheadEq
      exact notAccepted member.1

theorem refuses_character_iff (expected : Char) (ahead : List Char) :
    (character expected).Refuses ahead ↔ ¬ StartsWith (· == expected) ahead := by
  rw [← refuses_oneOf_iff]
  refine forall_congr' fun value => forall_congr' fun text => forall_congr' fun rest =>
    imp_congr_right fun _ => not_congr ?_
  rw [character, oneOf, beq_iff_eq]
  exact and_congr_right fun valueEq => by rw [valueEq]

theorem refuses_mapped_iff (f : α → β) (language : Language α) (ahead : List Char) :
    (language.mapped f).Refuses ahead ↔ language.Refuses ahead := by
  constructor
  · intro refused value text rest aheadEq member
    exact refused (f value) text rest aheadEq ⟨value, member, rfl⟩
  · intro refused value text rest aheadEq member
    obtain ⟨first, member, _⟩ := member
    exact refused first text rest aheadEq member

end Language

namespace Parser

variable {α β γ : Type}

/-- At this cursor the parser returns, and it succeeds exactly as the language says. -/
structure ReadsAt (parser : Parser α) (language : Language α) (cursor : Cursor) : Prop where
  returns : (parser.parse cursor).Returns
  success_iff : ∀ value next, parser.parse cursor = .success value next ↔
    ∃ text rest, cursor.unread = text ++ rest ∧ language value text rest ∧
      next = cursor.advance text.length

/-- The parser returns everywhere, and its successes are exactly those of the language. -/
def Reads (parser : Parser α) (language : Language α) : Prop :=
  ∀ cursor, parser.ReadsAt language cursor

section ReadsAt

variable {parser : Parser α} {language other : Language α} {cursor next : Cursor} {value : α}
  {text rest : List Char}

theorem ReadsAt.success (reads : parser.ReadsAt language cursor)
    (unreadEq : cursor.unread = text ++ rest) (member : language value text rest) :
    parser.parse cursor = .success value (cursor.advance text.length) :=
  (reads.success_iff value _).mpr ⟨text, rest, unreadEq, member, rfl⟩

/-- A text of the language decides what the parser answers. -/
theorem ReadsAt.eq_of_success (reads : parser.ReadsAt language cursor)
    (read : parser.parse cursor = .success value next) {found : α}
    (unreadEq : cursor.unread = text ++ rest) (member : language found text rest) :
    found = value ∧ cursor.advance text.length = next := by
  rw [reads.success unreadEq member] at read
  cases read
  exact ⟨rfl, rfl⟩

theorem ReadsAt.refuses_of_failure (reads : parser.ReadsAt language cursor) {reason : Failure}
    (failed : parser.parse cursor = .failure reason) :
    language.Refuses cursor.unread := by
  intro value text rest unreadEq member
  rw [reads.success unreadEq member] at failed
  contradiction

theorem ReadsAt.failure_of_refuses (reads : parser.ReadsAt language cursor)
    (refused : language.Refuses cursor.unread) :
    ∃ reason, parser.parse cursor = .failure reason := by
  refine reads.returns.exists_failure fun value next read => ?_
  obtain ⟨text, rest, unreadEq, member, _⟩ := (reads.success_iff value next).mp read
  exact refused value text rest unreadEq member

theorem readsAt_of_failure {reason : Failure} (failed : parser.parse cursor = .failure reason)
    (refused : language.Refuses cursor.unread) :
    parser.ReadsAt language cursor where
  returns := by
    rw [failed]
    exact Outcome.returns_failure reason
  success_iff value next := by
    rw [failed]
    refine ⟨fun same => by contradiction, fun found => ?_⟩
    obtain ⟨text, rest, unreadEq, member, _⟩ := found
    exact absurd member (refused value text rest unreadEq)

/-- Only what the parser answers at the cursor matters. -/
theorem ReadsAt.of_parse_eq {like : Parser α} (reads : like.ReadsAt language cursor)
    (same : parser.parse cursor = like.parse cursor) :
    parser.ReadsAt language cursor where
  returns := by
    rw [same]
    exact reads.returns
  success_iff value next := by
    rw [same]
    exact reads.success_iff value next

theorem ReadsAt.congr (reads : parser.ReadsAt language cursor)
    (same : ∀ value text rest, cursor.unread = text ++ rest →
      (language value text rest ↔ other value text rest)) :
    parser.ReadsAt other cursor where
  returns := reads.returns
  success_iff value next := by
    rw [reads.success_iff]
    refine ⟨fun found => ?_, fun found => ?_⟩
    · obtain ⟨text, rest, unreadEq, member, nextEq⟩ := found
      exact ⟨text, rest, unreadEq, (same value text rest unreadEq).mp member, nextEq⟩
    · obtain ⟨text, rest, unreadEq, member, nextEq⟩ := found
      exact ⟨text, rest, unreadEq, (same value text rest unreadEq).mpr member, nextEq⟩

theorem Reads.congr (reads : parser.Reads language)
    (same : ∀ value text rest, language value text rest ↔ other value text rest) :
    parser.Reads other :=
  fun cursor => (reads cursor).congr fun value text rest _ => same value text rest

/-- A text of the language fixes the value, the place and what is left there. -/
theorem Reads.eq_of_success (reads : parser.Reads language)
    (read : parser.parse cursor = .success value next) {found : α}
    (unreadEq : cursor.unread = text ++ rest) (member : language found text rest) :
    found = value ∧ cursor.advance text.length = next ∧ next.unread = rest := by
  obtain ⟨foundEq, nextEq⟩ := (reads cursor).eq_of_success read unreadEq member
  refine ⟨foundEq, nextEq, ?_⟩
  rw [← nextEq]
  exact Cursor.unread_advance_length unreadEq

/-- What a success stands for, and where it stands. -/
theorem Reads.of_success (reads : parser.Reads language)
    (read : parser.parse cursor = .success value next) :
    ∃ text, cursor.unread = text ++ next.unread ∧ language value text next.unread ∧
      next = cursor.advance text.length := by
  obtain ⟨text, rest, unreadEq, member, rfl⟩ := ((reads cursor).success_iff value next).mp read
  have restEq := Cursor.unread_advance_length unreadEq
  refine ⟨text, ?_, ?_, rfl⟩
  · rw [restEq, unreadEq]
  · rw [restEq]
    exact member

/-- The successes that leave a given text. -/
theorem Reads.success_leaving_iff (reads : parser.Reads language) (cursor : Cursor) (value : α)
    (rest : List Char) :
    (∃ next, parser.parse cursor = .success value next ∧ next.unread = rest) ↔
      ∃ text, cursor.unread = text ++ rest ∧ language value text rest := by
  constructor
  · intro found
    obtain ⟨next, read, rfl⟩ := found
    obtain ⟨text, unreadEq, member, _⟩ := reads.of_success read
    exact ⟨text, unreadEq, member⟩
  · intro found
    obtain ⟨text, unreadEq, member⟩ := found
    exact ⟨_, (reads cursor).success unreadEq member, Cursor.unread_advance_length unreadEq⟩

theorem Reads.advances (reads : parser.Reads language) : parser.Advances := by
  intro cursor value next read
  obtain ⟨text, unreadEq, _, nextEq⟩ := reads.of_success read
  refine ⟨text.length, ?_, nextEq⟩
  rw [unreadEq, List.length_append]
  omega

theorem Reads.consumes (reads : parser.Reads language) (proper : language.Proper) :
    parser.Consumes := by
  intro cursor value next read
  obtain ⟨text, unreadEq, member, _⟩ := reads.of_success read
  have positive := List.length_pos_iff.mpr (proper value text _ member)
  rw [unreadEq, List.length_append]
  omega

end ReadsAt

/-! ### One parser, or two in a row -/

theorem reads_succeed (value : α) : (succeed value).Reads (.nothing value) := by
  intro cursor
  refine ⟨Outcome.returns_success value cursor, fun found next => ?_⟩
  constructor
  · intro same
    cases same
    exact ⟨[], cursor.unread, rfl, ⟨rfl, rfl⟩, rfl⟩
  · intro member
    obtain ⟨text, rest, _, ⟨rfl, rfl⟩, rfl⟩ := member
    rfl

theorem reads_fail (message : String) : (fail message : Parser α).Reads .never := by
  intro cursor
  refine readsAt_of_failure (parse_fail message cursor) ?_
  intro value text rest _ member
  exact member

theorem reads_anyChar : anyChar.Reads (.oneOf fun _ => true) := by
  intro cursor
  cases currentEq : cursor.current with
  | none =>
      refine readsAt_of_failure (parse_anyChar_of_none currentEq) ?_
      intro value text rest unreadEq member
      rw [Cursor.current, unreadEq, member.2] at currentEq
      contradiction
  | some found =>
      have read := parse_anyChar_of_current currentEq
      obtain ⟨tail, unreadEq⟩ := Cursor.exists_unread_of_current currentEq
      refine ⟨by rw [read]; exact Outcome.returns_success found cursor.next, fun value next => ?_⟩
      rw [read]
      constructor
      · intro same
        cases same
        exact ⟨[found], tail, unreadEq, ⟨rfl, rfl⟩, rfl⟩
      · intro member
        obtain ⟨text, rest, textEq, ⟨_, rfl⟩, rfl⟩ := member
        rw [unreadEq] at textEq
        cases textEq
        rfl

theorem reads_char (expected : Char) : (char expected).Reads (.character expected) := by
  intro cursor
  by_cases found : cursor.current = some expected
  · have read := parse_char_of_current found
    obtain ⟨tail, unreadEq⟩ := Cursor.exists_unread_of_current found
    refine ⟨by rw [read]; exact Outcome.returns_success expected cursor.next,
      fun value next => ?_⟩
    rw [read]
    constructor
    · intro same
      cases same
      exact ⟨[expected], tail, unreadEq, ⟨rfl, rfl⟩, rfl⟩
    · intro member
      obtain ⟨text, rest, _, ⟨rfl, rfl⟩, rfl⟩ := member
      rfl
  · refine readsAt_of_failure (parse_char_of_ne found) ?_
    intro value text rest unreadEq member
    exact found (by rw [Cursor.current, unreadEq, member.2]; rfl)

theorem Reads.map {parser : Parser α} {language : Language α} (reads : parser.Reads language)
    (f : α → β) :
    (parser.map f).Reads (language.mapped f) := by
  intro cursor
  refine ⟨(reads cursor).returns.map f, fun value next => ?_⟩
  rw [parse_map, Outcome.map_eq_success_iff]
  constructor
  · intro found
    obtain ⟨first, read, valueEq⟩ := found
    obtain ⟨text, rest, unreadEq, member, nextEq⟩ :=
      ((reads cursor).success_iff first next).mp read
    exact ⟨text, rest, unreadEq, ⟨first, member, valueEq⟩, nextEq⟩
  · intro found
    obtain ⟨text, rest, unreadEq, ⟨first, member, valueEq⟩, rfl⟩ := found
    exact ⟨first, (reads cursor).success unreadEq member, valueEq⟩

theorem Reads.filter {parser : Parser α} {language : Language α} (reads : parser.Reads language)
    (accept : α → Bool) (message : String) :
    (parser.filter accept message).Reads (language.filtered accept) := by
  intro cursor
  constructor
  · rw [parse_filter]
    refine (reads cursor).returns.andThen fun value next => ?_
    split
    · exact Outcome.returns_success value next
    · exact Outcome.returns_failure _
  · intro value next
    rw [parse_filter, Outcome.andThen_eq_success_iff]
    constructor
    · intro found
      obtain ⟨first, between, read, kept⟩ := found
      by_cases accepted : accept first = true
      · rw [if_pos accepted] at kept
        cases kept
        obtain ⟨text, rest, unreadEq, member, nextEq⟩ :=
          ((reads cursor).success_iff _ _).mp read
        exact ⟨text, rest, unreadEq, ⟨member, accepted⟩, nextEq⟩
      · rw [if_neg accepted] at kept
        contradiction
    · intro found
      obtain ⟨text, rest, unreadEq, ⟨member, accepted⟩, rfl⟩ := found
      exact ⟨value, _, (reads cursor).success unreadEq member, if_pos accepted⟩

theorem Reads.bind {parser : Parser α} {next : α → Parser β} {language : Language α}
    {nextLanguage : α → Language β} (reads : parser.Reads language)
    (nextReads : ∀ value, (next value).Reads (nextLanguage value)) :
    (parser.bind next).Reads (language.chosen nextLanguage) := by
  intro cursor
  constructor
  · rw [parse_bind]
    exact (reads cursor).returns.andThen fun first between => (nextReads first between).returns
  · intro value last
    rw [parse_bind, Outcome.andThen_eq_success_iff]
    constructor
    · intro found
      obtain ⟨first, between, readFirst, readNext⟩ := found
      obtain ⟨firstText, firstEq, firstMember, rfl⟩ := reads.of_success readFirst
      obtain ⟨nextText, nextEq, nextMember, rfl⟩ := (nextReads first).of_success readNext
      refine ⟨firstText ++ nextText, _, ?_,
        ⟨first, firstText, nextText, rfl, ?_, nextMember⟩, ?_⟩
      · rw [firstEq, List.append_assoc, ← nextEq]
      · rw [← nextEq]
        exact firstMember
      · rw [List.length_append, Cursor.advance_add]
    · intro found
      obtain ⟨text, rest, unreadEq, member, rfl⟩ := found
      obtain ⟨first, firstText, nextText, rfl, firstMember, nextMember⟩ := member
      rw [List.append_assoc] at unreadEq
      have readFirst := (reads cursor).success unreadEq firstMember
      have readNext := (nextReads first _).success (Cursor.unread_advance_length unreadEq)
        nextMember
      refine ⟨first, _, readFirst, ?_⟩
      rw [readNext, List.length_append, Cursor.advance_add]

theorem Reads.both {left : Parser α} {right : Parser β} {leftLanguage : Language α}
    {rightLanguage : Language β} (leftReads : left.Reads leftLanguage)
    (rightReads : right.Reads rightLanguage) :
    (left.both right).Reads (leftLanguage.paired rightLanguage) := by
  rw [both_eq_bind]
  refine (leftReads.bind fun first => rightReads.map (Prod.mk first)).congr
    fun value text rest => ?_
  constructor
  · intro member
    obtain ⟨first, leftText, rightText, textEq, leftMember, second, rightMember, rfl⟩ := member
    exact ⟨leftText, rightText, textEq, leftMember, rightMember⟩
  · intro member
    obtain ⟨leftText, rightText, textEq, leftMember, rightMember⟩ := member
    exact ⟨value.1, leftText, rightText, textEq, leftMember, value.2, rightMember, rfl⟩

theorem Reads.first {kept : Parser α} {dropped : Parser β} {keptLanguage : Language α}
    {droppedLanguage : Language β} (keptReads : kept.Reads keptLanguage)
    (droppedReads : dropped.Reads droppedLanguage) :
    (first kept dropped).Reads (keptLanguage.followed droppedLanguage) := by
  refine ((keptReads.both droppedReads).map Prod.fst).congr fun value text rest => ?_
  refine ⟨fun found => ?_, fun found => ?_⟩
  · obtain ⟨⟨_, other⟩, member, rfl⟩ := found
    exact ⟨other, member⟩
  · obtain ⟨other, member⟩ := found
    exact ⟨(value, other), member, rfl⟩

theorem Reads.second {dropped : Parser α} {kept : Parser β} {droppedLanguage : Language α}
    {keptLanguage : Language β} (droppedReads : dropped.Reads droppedLanguage)
    (keptReads : kept.Reads keptLanguage) :
    (second dropped kept).Reads (droppedLanguage.preceded keptLanguage) := by
  refine ((droppedReads.both keptReads).map Prod.snd).congr fun value text rest => ?_
  refine ⟨fun found => ?_, fun found => ?_⟩
  · obtain ⟨⟨other, _⟩, member, rfl⟩ := found
    exact ⟨other, member⟩
  · obtain ⟨other, member⟩ := found
    exact ⟨(other, value), member, rfl⟩

theorem Reads.between {opening : Parser α} {content : Parser β} {closing : Parser γ}
    {openingLanguage : Language α} {contentLanguage : Language β} {closingLanguage : Language γ}
    (openingReads : opening.Reads openingLanguage) (contentReads : content.Reads contentLanguage)
    (closingReads : closing.Reads closingLanguage) :
    (between opening content closing).Reads
      (openingLanguage.preceded (contentLanguage.followed closingLanguage)) :=
  openingReads.second (contentReads.first closingReads)

/-! ### Alternatives -/

theorem Reads.orElse {preferred alternative : Parser α}
    {preferredLanguage alternativeLanguage : Language α}
    (preferredReads : preferred.Reads preferredLanguage)
    (alternativeReads : alternative.Reads alternativeLanguage) :
    (preferred.orElse alternative).Reads
      (preferredLanguage.preferring alternativeLanguage) := by
  intro cursor
  have preferredAt := preferredReads cursor
  have alternativeAt := alternativeReads cursor
  cases outcome : preferred.parse cursor with
  | endless => exact absurd outcome preferredAt.returns
  | success first place =>
      have parseEq : (preferred.orElse alternative).parse cursor = preferred.parse cursor := by
        rw [parse_orElse, outcome, Outcome.success_orElse]
      refine (preferredAt.of_parse_eq parseEq).congr fun value text rest unreadEq => ?_
      refine ⟨.inl, fun either => ?_⟩
      rcases either with member | ⟨refused, _⟩
      · exact member
      · rw [← unreadEq] at refused
        obtain ⟨reason, failed⟩ := preferredAt.failure_of_refuses refused
        rw [outcome] at failed
        contradiction
  | failure reason =>
      have refused := preferredAt.refuses_of_failure outcome
      have parseEq : (preferred.orElse alternative).parse cursor = alternative.parse cursor := by
        rw [parse_orElse, outcome, Outcome.failure_orElse]
      refine (alternativeAt.of_parse_eq parseEq).congr fun value text rest unreadEq => ?_
      refine ⟨fun member => .inr ⟨unreadEq ▸ refused, member⟩, fun either => ?_⟩
      rcases either with member | ⟨_, member⟩
      · exact absurd member (refused value text rest unreadEq)
      · exact member

/-- A choice of characters reads each of them, whatever their order. -/
theorem reads_firstSuccess_char (preferred : Char) (others : List Char) :
    (firstSuccess (char preferred) (others.map char)).Reads
      (.oneOf ((preferred :: others).contains ·)) := by
  induction others generalizing preferred with
  | nil =>
      refine (reads_char preferred).congr fun value text rest => ?_
      rw [Language.character, Language.oneOf, List.contains_iff_mem, List.mem_singleton]
      exact and_congr_right fun valueEq => by rw [valueEq]
  | cons following others inductionHypothesis =>
      refine ((reads_char preferred).orElse (inductionHypothesis following)).congr
        fun value text rest => ?_
      rw [Language.preferring, Language.refuses_character_iff, Language.character, Language.oneOf,
        Language.oneOf, List.contains_iff_mem, List.contains_iff_mem]
      constructor
      · rintro (⟨rfl, rfl⟩ | ⟨_, listed, rfl⟩)
        · exact ⟨List.mem_cons_self, rfl⟩
        · exact ⟨List.mem_cons_of_mem _ listed, rfl⟩
      · rintro ⟨listed, rfl⟩
        by_cases same : value = preferred
        · exact .inl ⟨same, by rw [same]⟩
        · refine .inr ⟨?_, (List.mem_cons.mp listed).resolve_left same, rfl⟩
          rw [List.singleton_append, startsWith_cons, beq_iff_eq]
          exact same

theorem reads_anyOf (characters : Alternatives Char) :
    (anyOf characters).Reads (.oneOf (characters.toList.contains ·)) :=
  reads_firstSuccess_char characters.first (characters.second :: characters.others)

/-! ### Repetition -/

/-- The loop reads texts of the language for as long as there is one. By induction on what is left
to read, which each round makes shorter. -/
theorem Reads.many {parser : Parser α} {language : Language α} (reads : parser.Reads language)
    (proper : language.Proper) :
    parser.many.Reads language.Repeated := by
  have consumes := reads.consumes proper
  intro cursor
  induction lengthEq : cursor.unread.length using Nat.strongRecOn generalizing cursor with
  | ind length inductionHypothesis =>
      cases outcome : parser.parse cursor with
      | endless => exact absurd outcome (reads cursor).returns
      | failure reason =>
          have refused := (reads cursor).refuses_of_failure outcome
          have parseEq := parse_many_of_failure outcome
          refine ⟨by rw [parseEq]; exact Outcome.returns_success [] cursor,
            fun values next => ?_⟩
          rw [parseEq]
          constructor
          · intro same
            cases same
            exact ⟨[], cursor.unread, rfl, .stop refused, rfl⟩
          · intro found
            obtain ⟨text, rest, unreadEq, member, rfl⟩ := found
            cases member with
            | stop => rfl
            | step first others =>
                rw [List.append_assoc] at unreadEq
                exact absurd first (refused _ _ _ unreadEq)
      | success value between =>
          have shorter := consumes cursor value between outcome
          have parseEq := parse_many_of_success consumes outcome
          have tailReads := inductionHypothesis _ (by omega) between rfl
          obtain ⟨head, headEq, headMember, betweenEq⟩ := reads.of_success outcome
          refine ⟨by rw [parseEq]; exact tailReads.returns.map _, fun values next => ?_⟩
          rw [parseEq, Outcome.map_eq_success_iff]
          constructor
          · intro found
            obtain ⟨others, readOthers, rfl⟩ := found
            obtain ⟨tail, rest, tailEq, tailMember, rfl⟩ :=
              (tailReads.success_iff others next).mp readOthers
            rw [tailEq] at headEq headMember
            refine ⟨head ++ tail, rest, ?_, .step headMember tailMember, ?_⟩
            · rw [headEq, List.append_assoc]
            · rw [betweenEq, List.length_append, Cursor.advance_add]
          · intro found
            obtain ⟨text, rest, unreadEq, member, rfl⟩ := found
            cases member with
            | stop refused =>
                rw [List.nil_append] at unreadEq
                exact absurd headMember (refused _ _ _ (unreadEq ▸ headEq))
            | @step first others firstText othersText _ firstMember othersMember =>
                rw [List.append_assoc] at unreadEq
                obtain ⟨rfl, rfl⟩ := (reads cursor).eq_of_success outcome unreadEq firstMember
                have readOthers := tailReads.success (Cursor.unread_advance_length unreadEq)
                  othersMember
                refine ⟨others, ?_, rfl⟩
                rw [readOthers, List.length_append, Cursor.advance_add]

theorem Reads.many1 {parser : Parser α} {language : Language α} (reads : parser.Reads language)
    (proper : language.Proper) :
    parser.many1.Reads language.repeatedOnce := by
  intro cursor
  have manyAt := reads.many proper cursor
  cases outcome : parser.many.parse cursor with
  | endless => exact absurd outcome manyAt.returns
  | failure reason =>
      have refused := manyAt.refuses_of_failure outcome
      have failed : parser.many1.parse cursor = .failure reason := by
        rw [parse_many1, outcome, Outcome.failure_andThen]
      refine readsAt_of_failure failed fun values text rest unreadEq member => ?_
      exact refused values text rest unreadEq member.2
  | success read place =>
      have unique : ∀ values text rest, cursor.unread = text ++ rest →
          language.Repeated values text rest → values = read :=
        fun values text rest unreadEq member =>
          (manyAt.eq_of_success outcome unreadEq member).1
      cases read with
      | nil =>
          have failed : parser.many1.parse cursor = .failure .emptyRepetition := by
            rw [parse_many1, outcome]
            rfl
          refine readsAt_of_failure failed fun values text rest unreadEq member => ?_
          exact member.1 (unique values text rest unreadEq member.2)
      | cons head tail =>
          have parseEq : parser.many1.parse cursor = parser.many.parse cursor := by
            rw [parse_many1, outcome]
            rfl
          refine (manyAt.of_parse_eq parseEq).congr fun values text rest unreadEq => ?_
          refine ⟨fun member => ⟨?_, member⟩, And.right⟩
          rw [unique values text rest unreadEq member]
          exact List.cons_ne_nil head tail

end Parser

end TextGrammar
