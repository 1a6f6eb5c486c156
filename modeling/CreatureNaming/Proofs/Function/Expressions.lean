import CreatureNaming.Proofs.Function.Answers
import CreatureNaming.Proofs.Number.Written

/-! Expressions of two numerals.

No operator within a numeral follows a digit or a point, so an expression is split at the operator
between its numerals: a sign stands at the start, behind blanks or behind the letter of a power. No
character of a comparison stands in a numeral at all.
-/

set_option autoImplicit false

namespace CreatureNaming

open Number (NumeralText SpacedNumeral PowerText Sign)

variable {previous : Option Char} {text rest : List Char}

/-! ## Operators -/

/-- Whether an operator would stand behind a numeral. -/
def behindNumeral (previous : Option Char) : Bool := previous.any fun p => p.isDigit || p == '.'

/-- The last character that is not blank, `previous` being the one before the text. -/
def lastSolid (previous : Option Char) (text : List Char) : Option Char :=
  text.foldl (fun previous c => if Text.isBlank c then previous else some c) previous

/-- A text without an operator is passed over. -/
theorem splitOperator_append (quiet : splitOperator previous text = none) (rest : List Char) :
    splitOperator previous (text ++ rest) =
      (splitOperator (lastSolid previous text) rest).map
        fun (left, operator, right) => (text ++ left, operator, right) := by
  induction text generalizing previous with
  | nil => simp [lastSolid]
  | cons c text ih =>
    rw [splitOperator] at quiet
    split at quiet
    · cases quiet
    · next absent =>
      rw [Option.map_eq_none_iff] at quiet
      rw [List.cons_append, splitOperator]
      simp only [absent, ih quiet, Option.map_map]
      rfl

/-- Texts are passed over one after the other. -/
theorem splitOperator_append_none (quiet : splitOperator previous text = none)
    (quietRest : splitOperator (lastSolid previous text) rest = none) :
    splitOperator previous (text ++ rest) = none := by
  rw [splitOperator_append quiet, quietRest, Option.map_none]

/-- Nothing in a text is the character of an operator. -/
theorem splitOperator_calm (calm : ∀ c ∈ text, Operator.ofChar? c = none) :
    splitOperator previous text = none := by
  induction text generalizing previous with
  | nil => rfl
  | cons c text ih =>
    obtain ⟨first, others⟩ := List.forall_mem_cons.mp calm
    rw [splitOperator]
    simp only [first, ite_self, ih others, Option.map_none]

theorem splitOperator_sign (sign : Sign) (start : behindNumeral previous = false) :
    splitOperator previous sign.chars = none := by
  rw [behindNumeral] at start
  cases sign <;> simp [Sign.chars, splitOperator, start]

theorem ofChar?_of_isDigit {c : Char} (digit : c.isDigit = true) : Operator.ofChar? c = none := by
  unfold Operator.ofChar?
  split
  all_goals first | rfl | cases digit

theorem ofChar?_of_isBlank {c : Char} (blank : Text.isBlank c = true) :
    Operator.ofChar? c = none := by
  unfold Operator.ofChar?
  split
  all_goals first | rfl | cases blank

theorem lastSolid_blank (blank : ∀ c ∈ text, Text.isBlank c = true) :
    lastSolid previous text = previous := by
  induction text with
  | nil => rfl
  | cons c text ih =>
    obtain ⟨first, others⟩ := List.forall_mem_cons.mp blank
    rw [lastSolid, List.foldl_cons, if_pos first]
    exact ih others

theorem lastSolid_append :
    lastSolid previous (text ++ rest) = lastSolid (lastSolid previous text) rest :=
  List.foldl_append

theorem splitOperator_power (power : PowerText) : splitOperator previous power.chars = none := by
  -- The letter of the power is what the sign of its exponent stands behind.
  have letter : ∀ upper : Bool, Operator.ofChar? (if upper then 'E' else 'e') = none ∧
      Text.isBlank (if upper then 'E' else 'e') = false ∧
      behindNumeral (some (if upper then 'E' else 'e')) = false := by decide
  obtain ⟨calm, solid, start⟩ := letter power.upper
  rw [PowerText.chars, ← List.singleton_append]
  refine splitOperator_append_none (splitOperator_calm (by simpa using calm)) ?_
  rw [lastSolid, List.foldl_cons, List.foldl_nil, if_neg (by simp [solid])]
  exact splitOperator_append_none (splitOperator_sign _ start)
    (splitOperator_calm fun c member => ofChar?_of_isDigit (power.exponent.allDigits c member))

/-- A numeral is passed over where a sign would belong to it. -/
theorem splitOperator_numeral (numeral : NumeralText) (start : behindNumeral previous = false) :
    splitOperator previous numeral.chars = none := by
  rw [NumeralText.chars, ← List.append_assoc numeral.whole]
  refine splitOperator_append_none (splitOperator_sign _ start)
    (splitOperator_append_none (splitOperator_calm fun c member => ?_) ?_)
  · rcases List.mem_append.mp member with whole | fraction
    · exact ofChar?_of_isDigit (numeral.wholeDigits c whole)
    · rcases numeral.mem_fractionChars c fraction with digit | rfl
      · exact ofChar?_of_isDigit digit
      · rfl
  · rw [NumeralText.powerChars]
    cases numeral.power with
    | none => rfl
    | some power => exact splitOperator_power power

theorem behindNumeral_numeral (numeral : NumeralText) :
    behindNumeral (lastSolid previous numeral.chars) = true := by
  obtain ⟨before, last, same, ends⟩ := numeral.exists_end
  have solid := numeral.not_isBlank_of_mem last (by simp [same])
  rw [same, lastSolid_append, lastSolid, List.foldl_cons, List.foldl_nil, if_neg (by simp [solid])]
  simpa [behindNumeral] using ends

/-- The character of an operator. -/
def Operator.char : Operator → Char
  | .plus => '+'
  | .minus => '-'
  | .times => '*'
  | .over => '/'

/-- Behind a numeral and blanks, an operator splits an expression. -/
theorem splitOperator_spaced (x : SpacedNumeral) (operator : Operator) (rest : List Char) :
    splitOperator none (x.chars ++ operator.char :: rest) = some (x.chars, operator, rest) := by
  have blankCalm : ∀ text : List Char, (∀ c ∈ text, Text.isBlank c = true) →
      ∀ previous, splitOperator previous text = none :=
    fun text blank _ => splitOperator_calm fun c member => ofChar?_of_isBlank (blank c member)
  have quiet : splitOperator none x.chars = none := by
    rw [SpacedNumeral.chars, List.append_assoc]
    refine splitOperator_append_none (blankCalm _ x.blankBefore _) ?_
    rw [lastSolid_blank x.blankBefore]
    exact splitOperator_append_none (splitOperator_numeral _ rfl) (blankCalm _ x.blankAfter _)
  have behind : behindNumeral (lastSolid none x.chars) = true := by
    rw [SpacedNumeral.chars, lastSolid_append, lastSolid_blank x.blankAfter, lastSolid_append]
    exact behindNumeral_numeral x.numeral
  have named : Operator.ofChar? operator.char = some operator := by cases operator <;> rfl
  rw [splitOperator_append quiet, splitOperator]
  rw [behindNumeral] at behind
  simp [behind, named]

/-! ## Values of expressions -/

/-- An operator between two numerals with blanks around them. -/
def expressionText (x : SpacedNumeral) (operator : Operator) (y : SpacedNumeral) : String :=
  .ofList (x.chars ++ operator.char :: y.chars)

/-- What an operator makes of two numbers. -/
def Operator.result (operator : Operator) (left right : Binary64) : Binary64 :=
  match operator with
  | .plus => left.add right
  | .minus => left.sub right
  | .times => left.mul right
  | .over => left.div right

theorem Operator.apply_eq (operator : Operator) (left right : Binary64) :
    operator.apply left right =
      if operator = .over ∧ right.isZero = true then .error .divisionByZero
      else .ok (operator.result left right) := by
  match operator with
  | .plus | .minus | .times => rfl
  | .over => simp [apply, result]

/-- A numeral without the blanks before it. -/
def startTrimmed (x : SpacedNumeral) : SpacedNumeral := { x with before := [], blankBefore := nofun }

/-- A numeral without the blanks behind it. -/
def endTrimmed (y : SpacedNumeral) : SpacedNumeral := { y with after := [], blankAfter := nofun }

theorem trim_expressionText (x : SpacedNumeral) (operator : Operator) (y : SpacedNumeral) :
    Text.trim (expressionText x operator y) =
      expressionText (startTrimmed x) operator (endTrimmed y) := by
  have plainStart := x.numeral.not_isBlank_of_mem
  have plainEnd := y.numeral.not_isBlank_of_mem
  obtain ⟨first, others, start⟩ := List.exists_cons_of_ne_nil x.numeral.chars_ne_nil
  obtain ⟨before, last, finish, -⟩ := y.numeral.exists_end
  have whole : x.chars ++ operator.char :: y.chars =
      x.before ++ ((startTrimmed x).chars ++ operator.char :: (endTrimmed y).chars) ++ y.after := by
    simp [SpacedNumeral.chars, startTrimmed, endTrimmed]
  rw [expressionText, Text.trim, String.toList_ofList, whole,
    Text.trimChars_append x.blankBefore y.blankAfter (by simp)]
  · rfl
  · rintro c head
    obtain rfl : first = c := by simpa [SpacedNumeral.chars, startTrimmed, start] using head
    exact plainStart first (by simp [start])
  · rintro c ends
    have concat : (startTrimmed x).chars ++ operator.char :: (endTrimmed y).chars =
        ((startTrimmed x).chars ++ operator.char :: (y.before ++ before)) ++ [last] := by
      simp [SpacedNumeral.chars, endTrimmed, finish]
    rw [concat, List.getLast?_concat] at ends
    exact plainEnd c (by simp [finish, Option.some.inj ends])

theorem evaluate_expressionText {x y : SpacedNumeral} {left right : Binary64} (operator : Operator)
    (readsLeft : Number.readFinite? (.ofList x.chars) = some left)
    (readsRight : Number.readFinite? (.ofList y.chars) = some right) :
    evaluate (expressionText x operator y) = operator.apply left right := by
  replace readsLeft : Number.readFinite? (.ofList (startTrimmed x).chars) = some left := by
    rw [SpacedNumeral.readFinite?_chars] at readsLeft ⊢
    exact readsLeft
  replace readsRight : Number.readFinite? (.ofList (endTrimmed y).chars) = some right := by
    rw [SpacedNumeral.readFinite?_chars] at readsRight ⊢
    exact readsRight
  rw [evaluate, trim_expressionText]
  simp only [expressionText, String.toList_ofList, splitOperator_spaced, Work.readNumber, readsLeft,
    readsRight, ok_bind]

/-- An expression with blanks only is not evaluated; any other shows its value. -/
theorem answer_expression {arguments : List (Unit → Rendered)}
    (written : Text.allBlank (given arguments 0) = false) :
    Work.answer arguments Work.expression =
      (evaluate (given arguments 0)).map fun value => .ofList (Number.shortestText value) := by
  rw [Work.expression, Work.answer_bind, Work.answer_filled written, ok_bind, Work.answer_bind,
    Work.answer_ofExcept]
  cases evaluate (given arguments 0) <;> rfl

/-! ## Comparisons -/

/-- The characters of a comparison. -/
def Comparison.chars : Comparison → List Char
  | equal => ['=', '=']
  | unequal => ['!', '=']
  | atMost => ['<', '=']
  | atLeast => ['>', '=']
  | less => ['<']
  | greater => ['>']

/-- A text of characters that begin no comparison is passed over. -/
theorem splitComparison_append (calm : ∀ c ∈ text, c ∉ ['=', '!', '<', '>']) (rest : List Char) :
    splitComparison (text ++ rest) =
      (splitComparison rest).map fun (left, comparison, right) => (text ++ left, comparison, right) := by
  induction text with
  | nil => simp
  | cons c text ih =>
    obtain ⟨first, others⟩ := List.forall_mem_cons.mp calm
    have absent : Comparison.read? (c :: (text ++ rest)) = none := by
      unfold Comparison.read?
      split <;> simp_all
    rw [List.cons_append, splitComparison, absent]
    simp only [ih others, Option.map_map]
    rfl

theorem calm_chars (x : SpacedNumeral) : ∀ c ∈ x.chars, c ∉ ['=', '!', '<', '>'] := by
  intro c member listed
  have blank : Text.isBlank c = true ∨ c ∈ x.numeral.chars := by
    rw [SpacedNumeral.chars, List.mem_append, List.mem_append] at member
    rcases member with (before | inside) | after
    · exact .inl (x.blankBefore c before)
    · exact .inr inside
    · exact .inl (x.blankAfter c after)
  have other : ∀ c ∈ ['=', '!', '<', '>'],
      Text.isBlank c = false ∧ c.isDigit = false ∧ c ∉ Number.marks := by
    simp [Text.isBlank, Number.marks]
  obtain ⟨solid, noDigit, unmarked⟩ := other c listed
  rcases blank with blank | inside
  · rw [solid] at blank
    cases blank
  · rcases x.numeral.mem_chars c inside with digit | mark
    · rw [noDigit] at digit
      cases digit
    · exact unmarked mark

/-- Before a numeral, a comparison is read in its full length. -/
theorem splitComparison_spaced (x y : SpacedNumeral) (comparison : Comparison) :
    splitComparison (x.chars ++ (comparison.chars ++ y.chars)) =
      some (x.chars, comparison, y.chars) := by
  have read : Comparison.read? (comparison.chars ++ y.chars) = some (comparison, y.chars) := by
    have calm := calm_chars y
    cases chars : y.chars with
    | nil => cases comparison <;> rfl
    | cons c rest =>
      rw [chars] at calm
      have other : c ≠ '=' := by
        rintro rfl
        exact calm '=' List.mem_cons_self (by decide)
      cases comparison <;> simp [Comparison.chars, Comparison.read?, other]
  rw [splitComparison_append (calm_chars x), splitComparison.eq_def, read]
  simp

theorem comparisonHolds_spaced {x y : SpacedNumeral} {left right : Binary64}
    (comparison : Comparison)
    (readsLeft : Number.readFinite? (.ofList x.chars) = some left)
    (readsRight : Number.readFinite? (.ofList y.chars) = some right) :
    comparisonHolds (.ofList (x.chars ++ (comparison.chars ++ y.chars))) =
      comparison.holds left right := by
  rw [comparisonHolds, String.toList_ofList, splitComparison_spaced]
  simp only [readsLeft, readsRight]

theorem renderCall_expression {x y : SpacedNumeral} {left right : Binary64} {operator : Operator}
    (readsLeft : Number.readFinite? (.ofList x.chars) = some left)
    (readsRight : Number.readFinite? (.ofList y.chars) = some right)
    (context : Context) {arguments : List (Unit → Rendered)}
    (asked : given arguments 0 = expressionText x operator y) :
    (context.renderCall "expr" arguments).text =
      if operator = .over ∧ right.isZero = true then "#expr: division by zero"
      else .ofList (Number.shortestText (operator.result left right)) := by
  have named : Function.ofName? "expr" = some .expression := by decide
  have written : Text.allBlank (given arguments 0) = false := by
    obtain ⟨c, rest, start⟩ := List.exists_cons_of_ne_nil x.numeral.chars_ne_nil
    have solid := x.numeral.not_isBlank_of_mem c (by simp [start])
    rw [asked, expressionText, Text.allBlank, String.toList_ofList, List.all_eq_false]
    exact ⟨c, by simp [SpacedNumeral.chars, start], by simp [solid]⟩
  rw [context.renderCall_text named, Function.work, answer_expression written, asked,
    evaluate_expressionText operator readsLeft readsRight, Operator.apply_eq]
  by_cases divides : operator = .over ∧ right.isZero = true
  · rw [if_pos divides, if_pos divides]
    rfl
  · rw [if_neg divides, if_neg divides]
    rfl

/-- An operator between two numerals splits an expression into just these, and so does a
comparison. The value is that of the operator on their numbers, and a division by zero is
reported just where one is asked for. -/
theorem split_numerals (x y : SpacedNumeral) :
    (∀ operator : Operator,
      splitOperator none (x.chars ++ operator.char :: y.chars) = some (x.chars, operator, y.chars) ∧
      ∀ left right, Number.readFinite? (.ofList x.chars) = some left →
        Number.readFinite? (.ofList y.chars) = some right →
        evaluate (expressionText x operator y) =
          (if operator = .over ∧ right.isZero = true then .error .divisionByZero
          else .ok (operator.result left right)) ∧
        ∀ (context : Context) (arguments : List (Unit → Rendered)),
          given arguments 0 = expressionText x operator y →
          (context.renderCall "expr" arguments).text =
            if operator = .over ∧ right.isZero = true then "#expr: division by zero"
            else .ofList (Number.shortestText (operator.result left right))) ∧
    ∀ comparison : Comparison,
      splitComparison (x.chars ++ (comparison.chars ++ y.chars)) =
        some (x.chars, comparison, y.chars) ∧
      ∀ left right, Number.readFinite? (.ofList x.chars) = some left →
        Number.readFinite? (.ofList y.chars) = some right →
        comparisonHolds (.ofList (x.chars ++ (comparison.chars ++ y.chars))) =
          comparison.holds left right := by
  refine ⟨fun operator => ⟨splitOperator_spaced x operator y.chars, ?_⟩,
    fun comparison => ⟨splitComparison_spaced x y comparison, ?_⟩⟩
  · intro left right readsLeft readsRight
    refine ⟨?_, fun context arguments => renderCall_expression readsLeft readsRight context⟩
    rw [evaluate_expressionText operator readsLeft readsRight, Operator.apply_eq]
  · intro left right
    exact comparisonHolds_spaced comparison

/-- Signs behind an operator and in a power, a numeral without digits before its point, and a
division by a zero with a sign. -/
theorem split_numerals_signs :
    let context : Context :=
      { creature := { id := 1, species := "Rex" }, siblings := [], now := ⟨⟨0, 0⟩, 0⟩
        random := fun _ => "000000" }
    let difference : List (Unit → Rendered) := [fun _ => ⟨" 1e+5 - -.0", false⟩]
    let quotient : List (Unit → Rendered) := [fun _ => ⟨" 1e+5 / -.0", false⟩]
    splitOperator none " 1e+5 - -.0".toList = some (" 1e+5 ".toList, .minus, " -.0".toList) ∧
      splitComparison " 1e+5 <= -.0".toList = some (" 1e+5 ".toList, .atMost, " -.0".toList) ∧
      (context.renderCall "expr" difference).text = "100000" ∧
      (context.renderCall "expr" quotient).text = "#expr: division by zero" := by
  intro context difference quotient
  let x : SpacedNumeral :=
    ⟨[' '], ⟨.none, ['1'], none, some ⟨false, .plus, ['5'], by simp, by simp⟩, by simp, by simp,
      by simp⟩, [' '], by simp [Text.isBlank], by simp [Text.isBlank]⟩
  let y : SpacedNumeral :=
    ⟨[' '], ⟨.minus, [], some ['0'], none, by simp, by simp, by simp⟩, [],
      by simp [Text.isBlank], by simp⟩
  obtain ⟨operators, comparisons⟩ := split_numerals x y
  have readsLeft : Number.readFinite? (.ofList x.chars) = some x.numeral.value := by
    decide +kernel
  have readsRight : Number.readFinite? (.ofList y.chars) = some y.numeral.value := by
    decide +kernel
  have shownDifference := ((operators .minus).2 _ _ readsLeft readsRight).2 context difference
    (by decide +kernel)
  have shownQuotient := ((operators .over).2 _ _ readsLeft readsRight).2 context quotient
    (by decide +kernel)
  exact ⟨(operators .minus).1, (comparisons .atMost).1, shownDifference.trans (by decide +kernel),
    shownQuotient.trans (by decide +kernel)⟩

end CreatureNaming
