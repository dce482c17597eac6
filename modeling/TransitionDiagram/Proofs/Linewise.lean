/-
TransitionDiagram.Proofs.Linewise: a text is read line by line.

A text is a part that is closed, because it is empty or ends with a line feed, and an unfinished
line behind it. What stands behind a closed part is read as if it stood alone. So the transitions of
two texts with a line feed between them are those of the first and then those of the second, and a
line that is no transition can stand anywhere.

A carriage return asks for care. Before a line feed it belongs to the line end, and at the end of a
text it belongs to the line, where it can make a target out of nothing: an arrow at the end of a
line has none, and an arrow with a blank behind it has one of blanks alone.

  §1 closed parts and unfinished lines
  §2 carriage returns before line feeds
  §3 transitions of a text
  §4 machines
-/
import Mathlib.Data.List.Basic
import Mathlib.Data.List.Induction
import TransitionDiagram.Proofs.LineGrammar
import TransitionDiagram.Proofs.Lines
import TransitionDiagram.Proofs.Machines

namespace TransitionDiagram

namespace Text

variable {text line rest : List Char}

/-! ## §1 Closed parts -/

/-- The text is empty or ends with a line feed, so what follows it begins a line. -/
def Closed (text : List Char) : Prop :=
  ∀ c ∈ text.getLast?, c = '\n'

theorem closed_nil : Closed [] := by simp [Closed]

theorem closed_append_lineFeed (text : List Char) : Closed (text ++ ['\n']) := by simp [Closed]

/-- Every text is a closed part and a line that no line feed ends. -/
theorem exists_unfinished (text : List Char) :
    ∃ part line, Closed part ∧ '\n' ∉ line ∧ text = part ++ line := by
  induction text using List.reverseRecOn with
  | nil => exact ⟨[], [], closed_nil, by simp, rfl⟩
  | append_singleton text c ih =>
    by_cases feed : c = '\n'
    · subst feed
      exact ⟨text ++ ['\n'], [], closed_append_lineFeed text, by simp, by simp⟩
    · obtain ⟨part, line, closed, free, rfl⟩ := ih
      exact ⟨part, line ++ [c], closed, by simp [free, Ne.symm feed], by simp⟩

theorem linesFrom_append_lineFeed_append (before text rest : List Char) :
    linesFrom before (text ++ '\n' :: rest) =
      linesFrom before (text ++ ['\n']) ++ linesFrom [] rest := by
  induction text generalizing before with
  | nil => simp [linesFrom]
  | cons c text ih =>
    by_cases feed : c = '\n'
    · subst feed
      simp [linesFrom, ih]
    · have go_on : ∀ tail, linesFrom before (c :: tail) = linesFrom (c :: before) tail :=
        fun tail => linesFrom.eq_4 before c tail feed
      rw [List.cons_append, List.cons_append, go_on, go_on, ih]

/-- A closed part and what follows it have their lines each for itself. -/
theorem lines_append_of_closed (closed : Closed text) (rest : List Char) :
    lines (text ++ rest) = lines text ++ lines rest := by
  cases text using List.reverseRecOn with
  | nil => rfl
  | append_singleton front c =>
    obtain rfl : c = '\n' := closed c (by simp)
    rw [List.append_assoc]
    exact linesFrom_append_lineFeed_append [] front rest

theorem lines_append_lineFeed (free : '\n' ∉ line) (rest : List Char) :
    lines (line ++ '\n' :: rest) = endLine line.reverse :: lines rest := by
  rw [lines, linesFrom_append_lineFeed free, List.append_nil]; rfl

/-- A line that no line feed ends is a line unless it is empty. -/
theorem lines_of_free (free : '\n' ∉ line) : lines line = if line = [] then [] else [line] := by
  split
  · rename_i empty
    rw [empty]; rfl
  · rename_i ne
    exact linesFrom_of_free free (.inr ne)

theorem endLine_concat_return (line : List Char) : endLine (line ++ ['\r']).reverse = line := by
  simp [endLine]

/-! ## §2 Carriage returns -/

/-- The text with a carriage return before every line feed. -/
def withReturns (text : List Char) : List Char :=
  text.flatMap fun c => if c = '\n' then ['\r', '\n'] else [c]

/-- No line feed has a carriage return right before it. -/
def PlainFeeds (text : List Char) : Prop :=
  ¬ ['\r', '\n'] <:+: text

theorem PlainFeeds.of_append {front : List Char} (plain : PlainFeeds (front ++ text)) :
    PlainFeeds text :=
  fun pair => plain (pair.trans (List.suffix_append front text).isInfix)

theorem linesFrom_withReturns {before : List Char} (plain : PlainFeeds (before.reverse ++ text)) :
    linesFrom before (withReturns text) = linesFrom before text := by
  induction text generalizing before with
  | nil => rfl
  | cons c text ih =>
    by_cases feed : c = '\n'
    · subst feed
      have no_return : endLine before = before.reverse := by
        unfold endLine
        split
        · rename_i before
          -- the carriage return would stand right before the line feed
          exact absurd ⟨before.reverse, text, by simp⟩ plain
        · rfl
      have split : PlainFeeds ((before.reverse ++ ['\n']) ++ text) := by simpa using plain
      have later : PlainFeeds (([] : List Char).reverse ++ text) := split.of_append
      calc linesFrom before (withReturns ('\n' :: text))
        _ = linesFrom before ('\r' :: '\n' :: withReturns text) := rfl
        _ = before.reverse :: linesFrom [] (withReturns text) := by simp [linesFrom, endLine]
        _ = endLine before :: linesFrom [] text := by rw [no_return, ih later]
        _ = linesFrom before ('\n' :: text) := by simp [linesFrom]
    · have go_on : ∀ tail, linesFrom before (c :: tail) = linesFrom (c :: before) tail :=
        fun tail => linesFrom.eq_4 before c tail feed
      have same : withReturns (c :: text) = c :: withReturns text := by simp [withReturns, feed]
      rw [same, go_on, go_on]
      exact ih (by simpa using plain)

/-- Both styles of line end give the same lines. -/
theorem lines_withReturns (plain : PlainFeeds text) : lines (withReturns text) = lines text :=
  linesFrom_withReturns plain

end Text

open Text

/-! ## §3 Transitions of a text -/

/-- A line that holds no transition holds none either without a carriage return at its end. -/
theorem Transition.ofLine?_endLine_eq_none {line : List Char} (unread : ofLine? line = none) :
    ofLine? (endLine line.reverse) = none := by
  by_cases last : line.getLast? = some '\r'
  · obtain ⟨front, rfl⟩ := List.getLast?_eq_some_iff.mp last
    rw [endLine_concat_return, Option.eq_none_iff_forall_not_mem]
    intro t read
    obtain ⟨s, r, s_ne, -, rfl⟩ := exists_arrow_of_ofLine? read
    have rest_ne : r ++ ['\r'] ≠ [] := by simp
    obtain ⟨reading⟩ := exists_reading s_ne rest_ne
    rw [List.append_assoc, ofLine?_eq_of_reading reading] at unread
    contradiction
  · rw [endLine_reverse last, unread]

namespace Machine

variable {text line : List Char}

theorem transitionsOf_append_of_closed (closed : Closed text) (rest : List Char) :
    transitionsOf (text ++ rest) = transitionsOf text ++ transitionsOf rest := by
  simp only [transitionsOf, lines_append_of_closed closed, List.filterMap_append]

theorem transitionsOf_append_lineFeed (free : '\n' ∉ line) (rest : List Char) :
    transitionsOf (line ++ '\n' :: rest) =
      (Transition.ofLine? (endLine line.reverse)).toList ++ transitionsOf rest := by
  rw [transitionsOf, lines_append_lineFeed free, List.filterMap_cons]
  cases Transition.ofLine? (endLine line.reverse) <;> rfl

theorem transitionsOf_of_free (free : '\n' ∉ line) :
    transitionsOf line = (Transition.ofLine? line).toList := by
  rw [transitionsOf, lines_of_free free]
  split
  · rename_i empty
    rw [empty]; rfl
  · cases read : Transition.ofLine? line <;> simp [read]

/-- A line feed parts what is read before it from what is read behind it. -/
theorem transitionsOf_append (plain : text.getLast? ≠ some '\r') (rest : List Char) :
    transitionsOf (text ++ '\n' :: rest) = transitionsOf text ++ transitionsOf rest := by
  obtain ⟨part, line, closed, free, rfl⟩ := exists_unfinished text
  have plain_line : line.getLast? ≠ some '\r' := by
    intro last
    have ne : line ≠ [] := by
      rintro rfl
      simp at last
    exact plain (by rw [List.getLast?_append_of_ne_nil _ ne, last])
  calc transitionsOf (part ++ line ++ '\n' :: rest)
    _ = transitionsOf part ++ transitionsOf (line ++ '\n' :: rest) := by
      rw [List.append_assoc, transitionsOf_append_of_closed closed]
    _ = transitionsOf part ++ (transitionsOf line ++ transitionsOf rest) := by
      rw [transitionsOf_append_lineFeed free, endLine_reverse plain_line,
        transitionsOf_of_free free]
    _ = transitionsOf (part ++ line) ++ transitionsOf rest := by
      rw [transitionsOf_append_of_closed closed, List.append_assoc]

/-- The second text is the first one with one more line: before other text that begins a line, at an
end where a line begins, or behind an end where none does. -/
inductive InsertsLine (line : List Char) : List Char → List Char → Prop where
  | before (part rest : List Char) (closed : Closed part) :
    InsertsLine line (part ++ rest) (part ++ (line ++ '\n' :: rest))
  | last (part : List Char) (closed : Closed part) : InsertsLine line part (part ++ line)
  | behind (text : List Char) (plain : text.getLast? ≠ some '\r') :
    InsertsLine line text (text ++ '\n' :: line)

/-- A line that is no transition makes no difference. -/
theorem transitionsOf_of_insertsLine {longer : List Char} (free : '\n' ∉ line)
    (unread : Transition.ofLine? line = none) (inserts : InsertsLine line text longer) :
    transitionsOf longer = transitionsOf text := by
  cases inserts with
  | before part rest closed =>
    rw [transitionsOf_append_of_closed closed, transitionsOf_append_of_closed closed,
      transitionsOf_append_lineFeed free, Transition.ofLine?_endLine_eq_none unread]
    rfl
  | last part closed =>
    rw [transitionsOf_append_of_closed closed, transitionsOf_of_free free, unread]
    simp
  | behind text plain =>
    rw [transitionsOf_append plain, transitionsOf_of_free free, unread]
    simp

/-! ## §4 Machines -/

/-- A machine of two lists of transitions has the states of the first and then those of the second
that are new. -/
theorem states_ofTransitions_append (ts later : List Transition) :
    (ofTransitions (ts ++ later)).states = (ofTransitions ts).states ++
      (ofTransitions later).states.filter (· ∉ (ofTransitions ts).states) := by
  have split : ofTransitions (ts ++ later) = later.foldl addTransition (ofTransitions ts) :=
    List.foldl_append
  have alone : (ofTransitions later).states =
      (later.flatMap Transition.endpoints).foldl insertState [] :=
    states_foldl_addTransition empty later
  rw [split, states_foldl_addTransition, alone, ← foldl_insertState_append_filter]
  simp

theorem describedBy_iff (text : String) :
    describedBy text = true ↔ (ofText text).transitions ≠ [] := by
  simp only [describedBy, transitions_ofText, transitionsOf, List.any_eq_true, ne_eq,
    List.filterMap_eq_nil_iff, not_forall, Option.isSome_iff_ne_none, exists_prop]

/-- Reading goes line by line. Of two texts with a line feed between them the transitions are those
of both, and the states those of the first and the new ones of the second; both styles of line end
mean the same; a line without a transition makes no difference wherever it stands; and a text
describes a machine if and only if a transition is read in it. A line ends before a line feed, and
before one carriage return that stands there; what is behind the last line feed is a line unless it
is empty. -/
theorem ofText_linewise :
    (∀ a b : String, a.toList.getLast? ≠ some '\r' →
      (ofText (a ++ "\n" ++ b)).transitions = (ofText a).transitions ++ (ofText b).transitions ∧
      (ofText (a ++ "\n" ++ b)).states =
        (ofText a).states ++ (ofText b).states.filter (· ∉ (ofText a).states)) ∧
    (∀ text : String, PlainFeeds text.toList →
      ofText (String.ofList (withReturns text.toList)) = ofText text) ∧
    (∀ line text longer : String, '\n' ∉ line.toList → Transition.ofLine? line.toList = none →
      InsertsLine line.toList text.toList longer.toList → ofText longer = ofText text) ∧
    (∀ text : String, describedBy text = true ↔ (ofText text).transitions ≠ []) ∧
    ∀ line rest : List Char, '\n' ∉ line →
      lines (line ++ '\r' :: '\n' :: rest) = line :: lines rest ∧
      (line.getLast? ≠ some '\r' → lines (line ++ '\n' :: rest) = line :: lines rest) ∧
      lines line = if line = [] then [] else [line] := by
  refine ⟨fun a b plain => ?_, fun text plain => ?_, fun line text longer free unread inserts => ?_,
    describedBy_iff, fun line rest free => ⟨?_, fun plain => ?_, lines_of_free free⟩⟩
  · have joined : transitionsOf (a ++ "\n" ++ b).toList =
        transitionsOf a.toList ++ transitionsOf b.toList := by
      simpa using transitionsOf_append plain b.toList
    refine ⟨by simp only [transitions_ofText, joined], ?_⟩
    rw [ofText, joined]
    exact states_ofTransitions_append _ _
  · simp only [ofText, transitionsOf, String.toList_ofList, lines_withReturns plain]
  · simp only [ofText, transitionsOf_of_insertsLine free unread inserts]
  · have free_return : '\n' ∉ line ++ ['\r'] := by simp [free]
    have ended := lines_append_lineFeed free_return rest
    rw [endLine_concat_return] at ended
    simpa using ended
  · rw [lines_append_lineFeed free, endLine_reverse plain]

/-- A text whose last line is an arrow and a carriage return, which is a transition to the state
without a name, behind one that uses its states; and a text between whose lines an arrow without a
target is put, which is no transition. -/
theorem ofText_linewise_arrows_at_end :
    let a := "C->A\nA->"
    let b := "A->C\nA->\r"
    let text := "A->B\nB->C"
    let longer := "A->B\nA->\nB->C"
    a.toList.getLast? ≠ some '\r' ∧
      (ofText (a ++ "\n" ++ b)).transitions = (ofText a).transitions ++ (ofText b).transitions ∧
      (ofText (a ++ "\n" ++ b)).states =
        (ofText a).states ++ (ofText b).states.filter (· ∉ (ofText a).states) ∧
      PlainFeeds longer.toList ∧
      ofText (String.ofList (withReturns longer.toList)) = ofText longer ∧
      Transition.ofLine? "A->".toList = none ∧
      InsertsLine "A->".toList text.toList longer.toList ∧ ofText longer = ofText text := by
  intro a b text longer
  have plain : a.toList.getLast? ≠ some '\r' := by decide +kernel
  have plain_feeds : PlainFeeds longer.toList := by
    unfold PlainFeeds
    decide +kernel
  have unread : Transition.ofLine? "A->".toList = none := by decide +kernel
  have inserts : InsertsLine "A->".toList text.toList longer.toList := by
    let part := "A->B".toList ++ ['\n']
    have text_eq : text.toList = part ++ "B->C".toList := by decide +kernel
    have longer_eq : longer.toList = part ++ ("A->".toList ++ '\n' :: "B->C".toList) := by
      decide +kernel
    rw [text_eq, longer_eq]
    exact .before part "B->C".toList (closed_append_lineFeed _)
  obtain ⟨joins, returns, inserted, -⟩ := ofText_linewise
  obtain ⟨transitions, states⟩ := joins a b plain
  exact ⟨plain, transitions, states, plain_feeds, returns longer plain_feeds, unread, inserts,
    inserted "A->" text longer (by decide +kernel) unread inserts⟩

end Machine

end TransitionDiagram
