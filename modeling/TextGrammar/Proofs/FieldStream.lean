import TextGrammar.Field
import TextGrammar.Proofs.Lexemes

/-!
Contract: streams of fields that begin with their length.

Owns:
- the language of a writer, and what it leaves of a list of values as the repetitions of it;
- the language of a field, and `StartsWithField`, the texts that a field stands in front of;
- that a stream of fields is read back as it was written.

The length is read before the content, so a content is never looked at to find its end: digits in
it are no lengths. A field that is cut off is no field, and the loop that meets it gives its digit
back.
-/

namespace TextGrammar

namespace Language

variable {α : Type} {admissible : α → Prop} {encode : α → List Char}

/-- The texts that a writer leaves of the admissible values, whatever follows them. -/
def written (admissible : α → Prop) (encode : α → List Char) : Language α :=
  fun value text _ => admissible value ∧ text = encode value

/-- What is written value after value, up to where no value is written. -/
theorem repeated_written_iff (values : List α) (text rest : List Char) :
    (written admissible encode).Repeated values text rest ↔
      (∀ value ∈ values, admissible value) ∧ text = values.flatMap encode ∧
        (written admissible encode).Refuses rest := by
  constructor
  · intro member
    induction member with
    | stop refused => exact ⟨fun _ member => by contradiction, rfl, refused⟩
    | step first others inductionHypothesis =>
        obtain ⟨firstAdmissible, rfl⟩ := first
        obtain ⟨othersAdmissible, rfl, refused⟩ := inductionHypothesis
        exact ⟨List.forall_mem_cons.mpr ⟨firstAdmissible, othersAdmissible⟩,
          List.flatMap_cons.symm, refused⟩
  · intro found
    obtain ⟨allAdmissible, rfl, refused⟩ := found
    induction values with
    | nil => exact .stop refused
    | cons head tail inductionHypothesis =>
        obtain ⟨headAdmissible, tailAdmissible⟩ := List.forall_mem_cons.mp allAdmissible
        rw [List.flatMap_cons]
        exact .step ⟨headAdmissible, rfl⟩ (inductionHypothesis tailAdmissible)

end Language

namespace Parser

/-- As many characters as are asked for, whichever they are. -/
theorem reads_sequence_replicate_anyChar (count : Nat) :
    (sequence (List.replicate count anyChar)).Reads
      fun values text _ => values = text ∧ text.length = count := by
  induction count with
  | zero =>
      refine (reads_succeed []).congr fun values text rest => ?_
      rw [Language.nothing, List.length_eq_zero_iff]
      exact and_congr_left fun textEq => by rw [textEq]
  | succ count inductionHypothesis =>
      have unfolded : sequence (List.replicate (count + 1) anyChar) =
          anyChar.bind fun head =>
            (sequence (List.replicate count anyChar)).map (head :: ·) := rfl
      rw [unfolded]
      refine (reads_anyChar.bind fun head => inductionHypothesis.map (head :: ·)).congr
        fun values text rest => ?_
      constructor
      · intro member
        obtain ⟨head, _, tail, rfl, ⟨_, rfl⟩, _, ⟨rfl, lengthEq⟩, rfl⟩ := member
        exact ⟨rfl, congrArg (· + 1) lengthEq⟩
      · intro member
        obtain ⟨rfl, lengthEq⟩ := member
        cases values with
        | nil => contradiction
        | cons head tail =>
            exact ⟨head, [head], tail, rfl, ⟨rfl, rfl⟩, tail, ⟨rfl, Nat.succ.inj lengthEq⟩, rfl⟩

end Parser

namespace Field

/-! ### One field -/

theorem digitValue_le_nine {digit : Char} (isDigit : digit.isDigit = true) :
    digitValue digit ≤ 9 :=
  Nat.sub_le_of_le_add (Char.isDigit_iff_toNat.mp isDigit).2

theorem digitChar_digitValue {digit : Char} (isDigit : digit.isDigit = true) :
    Nat.digitChar (digitValue digit) = digit := by
  have belowTen : digitValue digit < 10 := Nat.lt_succ_of_le (digitValue_le_nine isDigit)
  rw [← Char.toNat_inj, Nat.toNat_digitChar_of_lt_ten belowTen]
  exact Nat.add_sub_of_le (Char.isDigit_iff_toNat.mp isDigit).1

theorem digitValue_digitChar {number : Nat} (belowTen : number < 10) :
    digitValue (Nat.digitChar number) = number := by
  rw [digitValue, Nat.toNat_digitChar_of_lt_ten belowTen]
  exact Nat.add_sub_cancel_left 48 number

/-- The length of a content that fits is one digit. -/
theorem encode_of_length_le {content : String} (fits : content.length ≤ 9) :
    encode content = Nat.digitChar content.length :: content.toList := by
  rw [encode, Nat.toString_eq_repr, Nat.toList_repr,
    Nat.toDigits_of_lt_base (Nat.lt_succ_of_le fits)]
  rfl

/-- The fields of contents that fit. -/
def language : Language String :=
  .written (fun content => content.length ≤ 9) encode

/-- A digit is there, and after it as many characters as it says. -/
def StartsWithField : List Char → Prop
  | [] => False
  | head :: tail => head.isDigit = true ∧ digitValue head ≤ tail.length

instance (ahead : List Char) : Decidable (StartsWithField ahead) :=
  match ahead with
  | [] => inferInstanceAs (Decidable False)
  | head :: tail =>
      inferInstanceAs (Decidable (head.isDigit = true ∧ digitValue head ≤ tail.length))

theorem proper_language : language.Proper := by
  intro content text rest member
  obtain ⟨fits, rfl⟩ := member
  rw [encode_of_length_le fits]
  exact List.cons_ne_nil _ _

theorem startsWithField_encode_append {content : String} (fits : content.length ≤ 9)
    (rest : List Char) : StartsWithField (encode content ++ rest) := by
  have belowTen : content.length < 10 := Nat.lt_succ_of_le fits
  rw [encode_of_length_le fits, List.cons_append]
  refine ⟨?_, ?_⟩
  · rw [Nat.isDigit_digitChar]
    exact decide_eq_true belowTen
  · rw [digitValue_digitChar belowTen, List.length_append, String.length_toList]
    exact Nat.le_add_right _ _

/-- The characters that the digit counts are the content of the field. -/
theorem exists_encode_append_of_startsWithField {ahead : List Char}
    (field : StartsWithField ahead) :
    ∃ content rest, content.length ≤ 9 ∧ ahead = encode content ++ rest := by
  cases ahead with
  | nil => exact field.elim
  | cons digit tail =>
      obtain ⟨isDigit, enough⟩ := field
      have lengthEq : (String.ofList (tail.take (digitValue digit))).length = digitValue digit := by
        rw [String.length_ofList, List.length_take_of_le enough]
      have fits := Nat.le_trans (Nat.le_of_eq lengthEq) (digitValue_le_nine isDigit)
      refine ⟨String.ofList (tail.take (digitValue digit)), tail.drop (digitValue digit), fits, ?_⟩
      rw [encode_of_length_le fits, lengthEq, digitChar_digitValue isDigit, String.toList_ofList,
        List.cons_append, List.take_append_drop]

theorem refuses_language_iff (ahead : List Char) :
    language.Refuses ahead ↔ ¬ StartsWithField ahead := by
  constructor
  · intro refused field
    obtain ⟨content, rest, fits, aheadEq⟩ := exists_encode_append_of_startsWithField field
    exact refused content _ rest aheadEq ⟨fits, rfl⟩
  · intro notField content text rest aheadEq member
    obtain ⟨fits, rfl⟩ := member
    rw [aheadEq] at notField
    exact notField (startsWithField_encode_append fits rest)

theorem parser_eq_bind :
    parser = (Parser.digit.map digitValue).bind fun length =>
      (Parser.sequence (List.replicate length Parser.anyChar)).map String.ofList := rfl

theorem reads_field : parser.Reads language := by
  rw [parser_eq_bind]
  refine ((Parser.reads_digit.map digitValue).bind fun length =>
    (Parser.reads_sequence_replicate_anyChar length).map String.ofList).congr
      fun content text rest => ?_
  constructor
  · intro member
    obtain ⟨_, _, _, rfl, ⟨digit, ⟨isDigit, rfl⟩, rfl⟩, characters, ⟨rfl, lengthEq⟩, rfl⟩ := member
    have sameLength : (String.ofList characters).length = digitValue digit := by
      rw [String.length_ofList, lengthEq]
    have fits := Nat.le_trans (Nat.le_of_eq sameLength) (digitValue_le_nine isDigit)
    refine ⟨fits, ?_⟩
    rw [encode_of_length_le fits, sameLength, digitChar_digitValue isDigit, String.toList_ofList]
    rfl
  · intro member
    obtain ⟨fits, rfl⟩ := member
    have belowTen : content.length < 10 := Nat.lt_succ_of_le fits
    refine ⟨content.length, [Nat.digitChar content.length], content.toList,
      encode_of_length_le fits, ⟨_, ⟨?_, rfl⟩, digitValue_digitChar belowTen⟩,
      content.toList, ⟨rfl, String.length_toList⟩, String.ofList_toList⟩
    rw [Nat.isDigit_digitChar]
    exact decide_eq_true belowTen

/-! ### Streams of fields -/

section Streams

variable {contents : List String} {rest : List Char}

theorem repeated_language_iff (contents : List String) (text rest : List Char) :
    language.Repeated contents text rest ↔
      (∀ content ∈ contents, content.length ≤ 9) ∧
        text = contents.flatMap encode ∧ ¬ StartsWithField rest := by
  rw [← refuses_language_iff]
  exact Language.repeated_written_iff contents text rest

/-- The loop reads a stream to its end. -/
theorem success_of_stream {cursor : Cursor} (fits : ∀ content ∈ contents, content.length ≤ 9)
    (unreadEq : cursor.unread = contents.flatMap encode ++ rest)
    (stopped : ¬ StartsWithField rest) :
    parser.many.parse cursor =
      .success contents (cursor.advance (contents.flatMap encode).length) :=
  (reads_field.many proper_language cursor).success unreadEq
    ((repeated_language_iff contents _ rest).mpr ⟨fits, rfl, stopped⟩)

theorem success_leaving_iff_stream (cursor : Cursor) (contents : List String) (rest : List Char) :
    (∃ next, parser.many.parse cursor = .success contents next ∧ next.unread = rest) ↔
      (∀ content ∈ contents, content.length ≤ 9) ∧
        cursor.unread = contents.flatMap encode ++ rest ∧ ¬ StartsWithField rest := by
  rw [(reads_field.many proper_language).success_leaving_iff]
  constructor
  · intro found
    obtain ⟨text, unreadEq, member⟩ := found
    obtain ⟨fits, rfl, stopped⟩ := (repeated_language_iff contents text rest).mp member
    exact ⟨fits, unreadEq, stopped⟩
  · intro stream
    obtain ⟨fits, unreadEq, stopped⟩ := stream
    exact ⟨_, unreadEq, (repeated_language_iff contents _ rest).mpr ⟨fits, rfl, stopped⟩⟩

/-- A text is cut into fields in one way: the reader finds the contents of either cut. -/
theorem stream_unique {others : List String} {otherRest : List Char}
    (fits : ∀ content ∈ contents, content.length ≤ 9)
    (othersFit : ∀ content ∈ others, content.length ≤ 9)
    (stopped : ¬ StartsWithField rest) (otherStopped : ¬ StartsWithField otherRest)
    (same : contents.flatMap encode ++ rest = others.flatMap encode ++ otherRest) :
    contents = others ∧ rest = otherRest := by
  have unreadEq := Cursor.unread_ofChars (contents.flatMap encode ++ rest)
  have read := success_of_stream fits unreadEq stopped
  rw [success_of_stream othersFit (unreadEq.trans same) otherStopped] at read
  cases read
  exact ⟨rfl, List.append_cancel_left same⟩

end Streams

/-- The repetition of a field reads contents and leaves a rest exactly where they are the stream
that was written of these contents and a rest that no field begins. So a last field that lacks
characters is left with its digit, and no text is the stream of other contents as well. -/
theorem streams_read_as_written :
    (∀ (cursor : Cursor) (contents : List String) (rest : List Char),
      (∃ next, parser.many.parse cursor = .success contents next ∧ next.unread = rest) ↔
        (∀ content ∈ contents, content.length ≤ 9) ∧
          cursor.unread = contents.flatMap encode ++ rest ∧ ¬ StartsWithField rest) ∧
    (∀ (cursor : Cursor) (contents : List String) (digit : Char) (begun : List Char),
      (∀ content ∈ contents, content.length ≤ 9) → begun.length < digitValue digit →
      cursor.unread = contents.flatMap encode ++ digit :: begun →
      ∃ next, parser.many.parse cursor = .success contents next ∧ next.unread = digit :: begun) ∧
    ∀ (contents others : List String) (rest otherRest : List Char),
      (∀ content ∈ contents, content.length ≤ 9) → (∀ content ∈ others, content.length ≤ 9) →
      ¬ StartsWithField rest → ¬ StartsWithField otherRest →
      contents.flatMap encode ++ rest = others.flatMap encode ++ otherRest →
      contents = others ∧ rest = otherRest := by
  refine ⟨success_leaving_iff_stream, fun cursor contents digit begun fits cutOff unreadEq => ?_,
    fun contents others rest otherRest => stream_unique⟩
  refine (success_leaving_iff_stream cursor contents _).mpr ⟨fits, unreadEq, fun field => ?_⟩
  exact absurd field.2 (Nat.not_le.mpr cutOff)

/-- Digits, nothing, wide characters, and a last field that lacks two of its five characters. -/
theorem stream_of_digits_and_wide_characters :
    (∃ next, parser.many.parse (Cursor.ofText "21203日本35a2b") =
      .success ["12", "", "日本3"] next ∧ next.unread = ['5', 'a', '2', 'b']) ∧
    (∃ next, parser.many.parse (Cursor.ofText "21203日本35a2b") =
      .success ["12", "", "日本3"] next ∧ next.unread = '5' :: ['a', '2', 'b']) ∧
    ["12", "", "日本3"] = ["12", "", "日本3"] ∧ ['5', 'a', '2', 'b'] = '5' :: ['a', '2', 'b'] := by
  obtain ⟨exact, cutOff, unique⟩ := streams_read_as_written
  have unreadEq : (Cursor.ofText "21203日本35a2b").unread =
      ["12", "", "日本3"].flatMap encode ++ ['5', 'a', '2', 'b'] := by decide
  refine ⟨(exact _ _ _).mpr ⟨by decide, unreadEq, by decide⟩,
    cutOff _ _ '5' ['a', '2', 'b'] (by decide) (by decide) unreadEq,
    unique _ _ _ _ (by decide) (by decide) (by decide) (by decide) rfl⟩

end Field

end TextGrammar
