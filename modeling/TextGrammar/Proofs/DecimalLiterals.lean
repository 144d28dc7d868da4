import TextGrammar.Proofs.LongestRuns

/-!
Contract: what is read of a decimal literal.

Owns:
- that the decimal digits of a word are its numeral, whatever zeros stand in front of them;
- the answers of `natural`, each decided by the longest run of digits at the cursor.

All digits are taken before their value is known, so a literal that is too large has been read to
its end when it is refused. The repetition drops the failure that ends it, and what the parser of a
digit has to say is lost with it.
-/

namespace TextGrammar

theorem decimalValue_eq_ofDigitChars (digits : List Char) :
    decimalValue digits = Nat.ofDigitChars 10 digits 0 :=
  Nat.ofDigitChars_eq_foldl.symm

/-- Leading zeros add nothing to the value of a numeral. -/
theorem numeral_replicate_zero_append_toDigits (word : UInt64) (zeros : Nat) :
    Numeral word (List.replicate zeros '0' ++ Nat.toDigits 10 word.toNat) where
  nonempty := List.append_ne_nil_of_right_ne_nil _ Nat.toDigits_ne_nil
  digits := by
    intro character member
    rcases List.mem_append.mp member with zero | digit
    · rw [List.eq_of_mem_replicate zero]
      decide
    · exact Nat.isDigit_of_mem_toDigits (by decide) (by decide) digit
  value_eq := by
    rw [decimalValue_eq_ofDigitChars, Nat.ofDigitChars_append, Nat.ofDigitChars_replicate_zero,
      Nat.mul_zero, Nat.ofDigitChars_ten_toDigits]

namespace Parser

section Natural

variable {cursor next : Cursor} {reason : Failure} {word : UInt64}

/-- A literal is taken whole. Then it is a word, or too large for one. -/
theorem parse_natural (cursor : Cursor) :
    natural.parse cursor =
      if cursor.unread.takeWhile Char.isDigit = [] then .failure .emptyRepetition
      else if decimalValue (cursor.unread.takeWhile Char.isDigit) < UInt64.size then
        .success (UInt64.ofNat (decimalValue (cursor.unread.takeWhile Char.isDigit)))
          (cursor.advance (cursor.unread.takeWhile Char.isDigit).length)
      else .failure (.failed
        ("number out of range: " ++ String.ofList (cursor.unread.takeWhile Char.isDigit))) := by
  rw [natural, parse_bind, digits, parse_map, reads_digit.parse_many1_of_oneOf]
  by_cases missing : cursor.unread.takeWhile Char.isDigit = []
  · rw [if_pos missing, if_pos missing]
    rfl
  · rw [if_neg missing, if_neg missing, Outcome.map_success, Outcome.success_andThen,
      wordOfLiteral, String.toList_ofList]
    split
    · rfl
    · rfl

/-- A number is missing, or it is out of range. -/
theorem failure_of_parse_natural (failed : natural.parse cursor = .failure reason) :
    reason = .emptyRepetition ∨
      ∃ literal, reason = .failed ("number out of range: " ++ String.ofList literal) := by
  rw [parse_natural] at failed
  split at failed
  · cases failed
    exact .inl rfl
  · split at failed
    · contradiction
    · cases failed
      exact .inr ⟨_, rfl⟩

/-- The value of what was read is the word itself, and not what is left of it in 64 bits. -/
theorem value_of_parse_natural (read : natural.parse cursor = .success word next) :
    ∃ literal, cursor.unread = literal ++ next.unread ∧
      word.toNat = Nat.ofDigitChars 10 literal 0 := by
  obtain ⟨literal, unreadEq, ⟨numeral, _⟩, _⟩ := reads_natural.of_success read
  exact ⟨literal, unreadEq, by rw [← decimalValue_eq_ofDigitChars, numeral.value_eq]⟩

theorem message_ne_of_parse_natural (failed : natural.parse cursor = .failure reason) :
    reason.message ≠ "expected digit" := by
  intro same
  have firstEq := congrArg (fun message => message.toList.head?) same
  rcases failure_of_parse_natural failed with rfl | ⟨literal, rfl⟩
  · simp [Failure.emptyRepetition] at firstEq
  · simp [Failure.failed] at firstEq

end Natural

/-- The digits at a cursor decide what `natural` answers. Without any it misses a repetition; as a
word they are its value, and are taken whole; too large for a word they are refused, and shown with
their leading zeros. So the decimal digits of every word are read back, zeros in front of them or
not, up to a text that no digit begins. No word stands for less than its digits, and no failure is
that of a digit. -/
theorem natural_decided_by_longest_literal :
    (∀ cursor : Cursor,
      let literal := cursor.unread.takeWhile Char.isDigit
      let value := Nat.ofDigitChars 10 literal 0
      (literal = [] → natural.parse cursor =
        .failure ⟨.emptyRepetition, "needs at least one match", .many1⟩) ∧
      (literal ≠ [] → value < UInt64.size → ∃ word : UInt64, word.toNat = value ∧
        natural.parse cursor = .success word (cursor.advance literal.length) ∧
        (cursor.advance literal.length).unread = cursor.unread.dropWhile Char.isDigit) ∧
      (UInt64.size ≤ value → natural.parse cursor =
        .failure ⟨.rejected, "number out of range: " ++ String.ofList literal, .fail⟩)) ∧
    (∀ (number zeros : Nat) (tail : List Char) (cursor : Cursor), number < UInt64.size →
      ¬ StartsWith Char.isDigit tail →
      cursor.unread = List.replicate zeros '0' ++ ((toString number).toList ++ tail) →
      ∃ word next, natural.parse cursor = .success word next ∧ word.toNat = number ∧
        next.unread = tail) ∧
    (∀ cursor word next, natural.parse cursor = .success word next →
      ∃ literal, cursor.unread = literal ++ next.unread ∧
        word.toNat = Nat.ofDigitChars 10 literal 0) ∧
    ∀ cursor reason, natural.parse cursor = .failure reason →
      reason.message ≠ "expected digit" := by
  refine ⟨?_, ?_, fun cursor word next => value_of_parse_natural,
    fun cursor reason => message_ne_of_parse_natural⟩
  · intro cursor literal value
    have parseEq := parse_natural cursor
    rw [decimalValue_eq_ofDigitChars] at parseEq
    refine ⟨fun missing => ?_, fun found fits => ?_, fun tooLarge => ?_⟩
    · rw [parseEq, if_pos missing]
      rfl
    · refine ⟨UInt64.ofNat value, UInt64.toNat_ofNat_of_lt' fits, ?_, ?_⟩
      · rw [parseEq, if_neg found, if_pos fits]
      · exact Cursor.unread_advance_length List.takeWhile_append_dropWhile.symm
    · have found : literal ≠ [] := by
        intro missing
        simp [value, missing] at tooLarge
      rw [parseEq, if_neg found, if_neg (Nat.not_lt.mpr tooLarge)]
      rfl
  · intro number zeros tail cursor fits stopped unreadEq
    have wordEq : (UInt64.ofNat number).toNat = number := UInt64.toNat_ofNat_of_lt' fits
    have numeral := numeral_replicate_zero_append_toDigits (UInt64.ofNat number) zeros
    rw [wordEq] at numeral
    rw [Nat.toString_eq_repr, Nat.toList_repr, ← List.append_assoc] at unreadEq
    exact ⟨_, _, (reads_natural cursor).success unreadEq ⟨numeral, stopped⟩, wordEq,
      Cursor.unread_advance_length unreadEq⟩

/-- The largest word and the number after it, behind two zeros, and a letter. -/
theorem natural_around_the_largest_word :
    natural.parse (Cursor.ofText "x7") =
      .failure ⟨.emptyRepetition, "needs at least one match", .many1⟩ ∧
    (∃ word : UInt64, word.toNat = 18446744073709551615 ∧
      natural.parse (Cursor.ofText "0018446744073709551615;") =
        .success word ((Cursor.ofText "0018446744073709551615;").advance 22)) ∧
    natural.parse (Cursor.ofText "0018446744073709551616;") =
      .failure ⟨.rejected, "number out of range: 0018446744073709551616", .fail⟩ ∧
    (∃ word next, natural.parse (Cursor.ofText "0018446744073709551615;") = .success word next ∧
      word.toNat = 18446744073709551615 ∧ next.unread = [';'] ∧
      ∃ literal, (Cursor.ofText "0018446744073709551615;").unread = literal ++ next.unread ∧
        word.toNat = Nat.ofDigitChars 10 literal 0) ∧
    "number out of range: 0018446744073709551616" ≠ "expected digit" := by
  obtain ⟨answers, readsBack, neverWraps, neverOfDigit⟩ := natural_decided_by_longest_literal
  obtain ⟨missing, _, _⟩ := answers (Cursor.ofText "x7")
  obtain ⟨_, fits, _⟩ := answers (Cursor.ofText "0018446744073709551615;")
  obtain ⟨_, _, refused⟩ := answers (Cursor.ofText "0018446744073709551616;")
  obtain ⟨word, wordEq, readWord, _⟩ := fits (by decide) (by decide)
  obtain ⟨same, next, read, sameEq, nextEq⟩ := readsBack 18446744073709551615 2 [';']
    (Cursor.ofText "0018446744073709551615;") (by decide) (by decide) (by decide)
  have failed := refused (by decide)
  exact ⟨missing (by decide), ⟨word, wordEq, readWord⟩, failed,
    ⟨same, next, read, sameEq, nextEq, neverWraps _ same next read⟩,
    neverOfDigit _ _ failed⟩

end Parser

end TextGrammar
