import TextGrammar.Proofs.Reading

/-!
Contract: the committed and the lenient reading of one separated list, run against each other.

Owns:
- `SeparatedRun`, the elements of a list and the separators between them as they are read;
- `ListEnding`, the ways in which a committed list can end;
- that a lenient list reads the elements of every such run, and then goes on after it;
- that the lenient list extends the committed one: it has all its elements where the committed one
  succeeds, and stops after the separator left over where it fails.

Element and separator are any parsers. The element consumes, so both loops end, and the separator
advances, so it cannot give back what an element has read. It may read nothing, or always succeed.
-/

namespace TextGrammar

namespace Parser

variable {α β : Type}

/-- From the one cursor to the other, the values are read with a separator between each two. -/
inductive SeparatedRun (parser : Parser α) (separator : Parser β) :
    Cursor → List α → Cursor → Prop where
  | single {cursor last : Cursor} {value : α} (read : parser.parse cursor = .success value last) :
      SeparatedRun parser separator cursor [value] last
  | cons {cursor next after last : Cursor} {value : α} {values : List α} {mark : β}
      (read : parser.parse cursor = .success value next)
      (separated : separator.parse next = .success mark after)
      (others : SeparatedRun parser separator after values last) :
      SeparatedRun parser separator cursor (value :: values) last

/-- How a committed list ends: refused at its first element, complete where no separator follows,
dangling where a separator is not followed by an element, or never. -/
inductive ListEnding (parser : Parser α) (separator : Parser β) (cursor : Cursor) :
    Outcome (List α) → Prop where
  | refused {reason : Failure} (failed : parser.parse cursor = .failure reason) :
      ListEnding parser separator cursor (.failure reason)
  | complete {values : List α} {last : Cursor} {reason : Failure}
      (run : SeparatedRun parser separator cursor values last)
      (stopped : separator.parse last = .failure reason) :
      ListEnding parser separator cursor (.success values last)
  | dangling {values : List α} {last after : Cursor} {mark : β} {reason : Failure}
      (run : SeparatedRun parser separator cursor values last)
      (separated : separator.parse last = .success mark after)
      (failed : parser.parse after = .failure reason) :
      ListEnding parser separator cursor (.failure reason)
  | endless : ListEnding parser separator cursor .endless

variable {parser : Parser α} {separator : Parser β} {cursor next after last : Cursor}
  {value : α} {values : List α} {mark : β}

theorem SeparatedRun.ne_nil (run : SeparatedRun parser separator cursor values last) :
    values ≠ [] := by
  cases run with
  | single => exact List.cons_ne_nil _ _
  | cons => exact List.cons_ne_nil _ _

/-! ### The committed list -/

/-- An element and a separator in front of a list leave it the ending it has. -/
private theorem ListEnding.cons {outcome : Outcome (List α)}
    (read : parser.parse cursor = .success value next)
    (separated : separator.parse next = .success mark after)
    (ending : ListEnding parser separator after outcome) :
    ListEnding parser separator cursor (outcome.map (value :: ·)) := by
  cases ending with
  | refused failed => exact .dangling (.single read) separated failed
  | complete run stopped => exact .complete (.cons read separated run) stopped
  | dangling run danglingSeparated failed =>
      exact .dangling (.cons read separated run) danglingSeparated failed
  | endless => exact .endless

theorem listEnding_separatedList (consumes : parser.Consumes) (advances : separator.Advances)
    (cursor : Cursor) :
    ListEnding parser separator cursor ((separatedList parser separator).parse cursor) := by
  have roundConsumes : (second separator parser).Consumes :=
    .second_of_advances advances consumes
  -- By induction on what is left to read: after a separator the list begins anew.
  induction lengthEq : cursor.unread.length using Nat.strongRecOn generalizing cursor with
  | ind length inductionHypothesis =>
      cases read : parser.parse cursor with
      | failure reason =>
          rw [parse_separatedList_of_failure read]
          exact .refused read
      | endless =>
          rw [parse_separatedList, read, Outcome.endless_andThen]
          exact .endless
      | success value next =>
          have shorter := consumes cursor value next read
          cases separated : separator.parse next with
          | failure reason =>
              rw [parse_separatedList_of_last read separated]
              exact .complete (.single read) separated
          | endless =>
              rw [parse_separatedList, read, Outcome.success_andThen, Cursor.horizon,
                moreWithin_succ, separated]
              exact .endless
          | success mark after =>
              have notLonger := advances.unread_length_le separated
              rw [parse_separatedList_of_more roundConsumes read separated]
              exact (inductionHypothesis _ (by omega) after rfl).cons read separated

/-! ### The lenient list -/

/-- A lenient list reads the elements of a run, and then what it reads after the last of them. -/
theorem SeparatedRun.parse_many_element (consumes : parser.Consumes) (advances : separator.Advances)
    (run : SeparatedRun parser separator cursor values last)
    (ends : ∀ {cursor value}, parser.parse cursor = .success value last →
      (element parser separator).parse cursor = .success value after) :
    (element parser separator).many.parse cursor =
      ((element parser separator).many.parse after).map (values ++ ·) := by
  have elementConsumes : (element parser separator).Consumes := consumes.element advances
  induction run with
  | single read => exact parse_many_of_success elementConsumes (ends read)
  | @cons _ _ _ _ value values _ read separated _ inductionHypothesis =>
      rw [parse_many_of_success elementConsumes (parse_element_of_separator read separated),
        inductionHypothesis ends]
      cases (element parser separator).many.parse after <;> rfl

/-- A run is not empty, so the lenient list has the match that it needs. -/
theorem SeparatedRun.parse_separatedBy (consumes : parser.Consumes) (advances : separator.Advances)
    (run : SeparatedRun parser separator cursor values last)
    (ends : ∀ {cursor value}, parser.parse cursor = .success value last →
      (element parser separator).parse cursor = .success value after) :
    (separatedBy parser separator).parse cursor =
      ((element parser separator).many.parse after).map (values ++ ·) := by
  rw [separatedBy, parse_many1, run.parse_many_element consumes advances ends]
  cases (element parser separator).many.parse after with
  | failure reason => rfl
  | endless => rfl
  | success more last =>
      rw [Outcome.map_success, Outcome.success_andThen, if_neg]
      simp [run.ne_nil]

/-- Where no separator follows, the lenient list goes on at the end of the run. -/
theorem SeparatedRun.parse_separatedBy_of_complete (consumes : parser.Consumes)
    (advances : separator.Advances) (run : SeparatedRun parser separator cursor values last)
    {reason : Failure} (stopped : separator.parse last = .failure reason) :
    (separatedBy parser separator).parse cursor =
      ((element parser separator).many.parse last).map (values ++ ·) :=
  run.parse_separatedBy consumes advances fun read => parse_element_of_stop read stopped

/-- Where a separator follows and no element after it, the lenient list ends after both. -/
theorem SeparatedRun.parse_separatedBy_of_dangling (consumes : parser.Consumes)
    (advances : separator.Advances) (run : SeparatedRun parser separator cursor values last)
    (separated : separator.parse last = .success mark after) {reason : Failure}
    (failed : parser.parse after = .failure reason) :
    (separatedBy parser separator).parse cursor = .success values after := by
  rw [run.parse_separatedBy consumes advances fun read => parse_element_of_separator read separated,
    parse_many_of_failure (parse_element_eq_failure_iff.mpr failed), Outcome.map_success,
    List.append_nil]

/-- The lenient list stops where the run does exactly if no element begins there. -/
private theorem map_append_eq_success_iff (values : List α) (cursor : Cursor) :
    ((element parser separator).many.parse cursor).map (values ++ ·) = .success values cursor ↔
      ∃ reason, parser.parse cursor = .failure reason := by
  constructor
  · intro stays
    obtain ⟨more, read, moreEq⟩ := Outcome.map_eq_success_iff.mp stays
    rw [List.append_right_eq_self] at moreEq
    rw [moreEq] at read
    obtain ⟨reason, failed⟩ := exists_failure_of_parse_many_nil read
    exact ⟨reason, parse_element_eq_failure_iff.mp failed⟩
  · rintro ⟨reason, failed⟩
    rw [parse_many_of_failure (parse_element_eq_failure_iff.mpr failed), Outcome.map_success,
      List.append_nil]

/-- Where the committed list succeeds, the lenient one goes on from where it stopped, and comes to
the same exactly if no element begins there. Where the committed list fails, so does its first
element and the lenient list has no match, or the lenient list ends after the separator left over,
at an element that fails as the committed list did. -/
theorem separatedBy_extends_separatedList (consumes : parser.Consumes)
    (advances : separator.Advances) (cursor : Cursor) :
    (∀ values next, (separatedList parser separator).parse cursor = .success values next →
      (separatedBy parser separator).parse cursor =
        ((element parser separator).many.parse next).map (values ++ ·) ∧
      (parser.Total → separator.Total → ∃ more last,
        (element parser separator).many.parse next = .success more last ∧
        (separatedBy parser separator).parse cursor = .success (values ++ more) last) ∧
      ((separatedBy parser separator).parse cursor = .success values next ↔
        ∃ reason, parser.parse next = .failure reason)) ∧
    ∀ reason, (separatedList parser separator).parse cursor = .failure reason →
      parser.parse cursor = .failure reason ∧
        (separatedBy parser separator).parse cursor = .failure .emptyRepetition ∨
      ∃ values last mark after, SeparatedRun parser separator cursor values last ∧
        separator.parse last = .success mark after ∧ values ≠ [] ∧
        (separatedBy parser separator).parse cursor = .success values after ∧
        parser.parse after = .failure reason := by
  have ending := listEnding_separatedList consumes advances cursor
  constructor
  case left =>
    intro values next read
    rw [read] at ending
    cases ending with
    | complete run stopped =>
        have extended := run.parse_separatedBy_of_complete consumes advances stopped
        refine ⟨extended, fun total separatorTotal => ?_, ?_⟩
        · obtain ⟨more, last, readMore⟩ :=
            (total.element separatorTotal).exists_parse_many (consumes.element advances) next
          exact ⟨more, last, readMore, by rw [extended, readMore, Outcome.map_success]⟩
        · rw [extended]
          exact map_append_eq_success_iff values next
  case right =>
    intro reason failed
    rw [failed] at ending
    cases ending with
    | refused refused => exact .inl ⟨refused, parse_separatedBy_of_failure refused⟩
    | @dangling values last after mark _ run separated refused =>
        have stopped := run.parse_separatedBy_of_dangling consumes advances separated refused
        exact .inr ⟨values, last, mark, after, run, separated, run.ne_nil, stopped, refused⟩

/-- A list before an element without a separator, one with a separator left over, and none. -/
theorem separatedBy_extends_lists_of_one_letter :
    (∃ more last, (separatedBy (char 'a') (char ',')).parse (Cursor.ofText "a,aab") =
      .success (['a', 'a'] ++ more) last) ∧
    (∃ values after, values ≠ [] ∧
      (separatedBy (char 'a') (char ',')).parse (Cursor.ofText "a,a,b") = .success values after ∧
      (char 'a').parse after = .failure (.charMismatch 'a' (some 'b'))) ∧
    (separatedBy (char 'a') (char ',')).parse (Cursor.ofText ",a") = .failure .emptyRepetition := by
  have total : ∀ expected, (char expected).Total :=
    fun expected cursor => (reads_char expected cursor).returns
  have consumes : (char 'a').Consumes :=
    (reads_char 'a').consumes fun value text rest member => by simp [member.2]
  have advances : (char ',').Advances := (reads_char ',').advances
  have extension := separatedBy_extends_separatedList consumes advances
  refine ⟨?_, ?_, ?_⟩
  · have read : (separatedList (char 'a') (char ',')).parse (Cursor.ofText "a,aab") =
        .success ['a', 'a'] (.inside ['a', ',', 'a'] ['a', 'b']) := by rfl
    obtain ⟨_, extended, _⟩ := (extension _).1 _ _ read
    obtain ⟨more, last, _, readMore⟩ := extended (total 'a') (total ',')
    exact ⟨more, last, readMore⟩
  · have failed : (separatedList (char 'a') (char ',')).parse (Cursor.ofText "a,a,b") =
        .failure (.charMismatch 'a' (some 'b')) := by rfl
    rcases (extension _).2 _ failed with ⟨refused, _⟩ | ⟨values, last, mark, after, _, _, rest⟩
    · have read : (char 'a').parse (Cursor.ofText "a,a,b") =
          .success 'a' (.inside ['a'] [',', 'a', ',', 'b']) := by rfl
      rw [read] at refused
      contradiction
    · exact ⟨values, after, rest⟩
  · have failed : (separatedList (char 'a') (char ',')).parse (Cursor.ofText ",a") =
        .failure (.charMismatch 'a' (some ',')) := by rfl
    rcases (extension _).2 _ failed with ⟨_, empty⟩ | ⟨values, last, mark, after, run, _⟩
    · exact empty
    · cases run with
      | single read => contradiction
      | cons read => contradiction

end Parser

end TextGrammar
