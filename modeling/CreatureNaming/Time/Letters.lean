import CreatureNaming.Time.Directive

/-! Layouts of time with letters.

A run of one letter stands for a field, and the length of the run for its form. Quoted and
escaped characters, and all that are no such letters, stand for themselves.
-/

set_option autoImplicit false

namespace CreatureNaming.Time

/-- The field of a run of a letter. -/
def runField? (letter : Char) (length : Nat) : Option TimeField :=
  match letter with
  | 'y' => some (if length ≤ 2 then .yearShort else .year)
  | 'M' =>
      some (if length = 1 then .month false else if length = 2 then .month true
        else if length = 3 then .monthShort else .monthName)
  | 'd' =>
      some (if length = 1 then .day false else if length = 2 then .day true
        else if length = 3 then .weekdayShort else .weekdayName)
  | 'H' => some (.hour (length != 1))
  | 'h' => some (.hourOfHalf (length != 1))
  | 'm' => some (.minute (length != 1))
  | 's' => some (.second (length != 1))
  | 't' => some .half
  | 'f' | 'F' => some (if length ≤ 3 then .millis else if length ≤ 6 then .micros else .nanos)
  | 'z' | 'K' => some .offset
  | _ => none

/-- Write a layout of letters with directives. -/
def directives (text : List Char) : List Char :=
  match text with
  | [] => []
  | '\\' :: next :: rest => (LayoutItem.literal next).directive ++ directives rest
  | ['\\'] => []
  | first :: rest =>
      if first = '\'' || first = '"' then
        (rest.takeWhile (· != first)).flatMap (fun char => (LayoutItem.literal char).directive) ++
          directives ((rest.dropWhile (· != first)).drop 1)
      else
        match runField? first ((rest.takeWhile (· == first)).length + 1) with
        | some field => (LayoutItem.field field).directive ++ directives (rest.dropWhile (· == first))
        | none => (LayoutItem.literal first).directive ++ directives rest
termination_by text.length
decreasing_by
  · simp +arith
  · have := (List.dropWhile_sublist (l := rest) (· != first)).length_le
    simp only [List.length_drop, List.length_cons]
    omega
  · have := (List.dropWhile_sublist (l := rest) (· == first)).length_le
    simp only [List.length_cons]
    omega
  · simp

end CreatureNaming.Time
