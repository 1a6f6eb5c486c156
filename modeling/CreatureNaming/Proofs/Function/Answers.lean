import CreatureNaming.Naming.Render

/-! What functions answer.

The work of a function is answered with the texts of its arguments, one question after the other.
So the answer of work that goes on with a first result is the answer of how it goes on, and what
the arguments are asked for is read off their texts.
-/

set_option autoImplicit false

namespace CreatureNaming

variable {First Second Result : Type} {arguments : List (Unit → Rendered)} {position : Nat}

@[simp]
theorem ok_bind {Error : Type} (result : First) (next : First → Except Error Second) :
    (Except.ok result >>= next) = next result := rfl

theorem Query.run_bind (query : Query First) (next : First → Query Second) :
    ((query.bind next).run arguments).1 = ((next (query.run arguments).1).run arguments).1 := by
  induction query with
  | done result => rfl
  | ask position answer ih =>
    rw [Query.bind, Query.run, Query.run]
    split
    · exact ih none
    · exact ih _

/-- The text of an argument, if it is given. -/
def given? (arguments : List (Unit → Rendered)) (position : Nat) : Option String :=
  arguments[position]?.map fun argument => (argument ()).text

/-- The text of an argument; one that is not given is empty. -/
def given (arguments : List (Unit → Rendered)) (position : Nat) : String :=
  (given? arguments position).getD ""

namespace Work

/-- What work results in when it is answered with some arguments. -/
def answer (arguments : List (Unit → Rendered)) (work : Work Result) :
    Except FunctionError Result :=
  (Query.run arguments work.run).1

@[simp]
theorem answer_pure (result : Result) : answer arguments (pure result) = .ok result := rfl

@[simp]
theorem answer_bind (work : Work First) (next : First → Work Second) :
    answer arguments (work >>= next) =
      answer arguments work >>= fun result => answer arguments (next result) := by
  refine (Query.run_bind work.run (ExceptT.bindCont next)).trans ?_
  rw [answer]
  cases (Query.run arguments work.run).1 with
  | ok result => rfl
  | error error => rfl

theorem exists_of_answer_bind {work : Work First} {next : First → Work Second} {result : Second}
    (answered : answer arguments (work >>= next) = .ok result) :
    ∃ first, answer arguments work = .ok first ∧ answer arguments (next first) = .ok result := by
  rw [answer_bind] at answered
  cases same : answer arguments work with
  | ok first => exact ⟨first, rfl, by rwa [same] at answered⟩
  | error error =>
    rw [same] at answered
    cases answered

@[simp]
theorem answer_ofExcept (result : Except FunctionError Result) :
    answer arguments (ofExcept result) = result := by
  cases result <;> rfl

@[simp]
theorem answer_argument? :
    answer arguments (argument? position) = .ok (given? arguments position) := by
  have run : answer arguments (argument? position) =
      (Query.run arguments ((Query.ask position Query.done).bind fun text =>
        .done (.ok text))).1 := rfl
  rw [run, Query.run_bind, given?]
  simp only [Query.run]
  cases arguments[position]? <;> rfl

@[simp]
theorem answer_argument : answer arguments (argument position) = .ok (given arguments position) := by
  rw [argument, answer_bind, answer_argument?]
  rfl

@[simp]
theorem answer_filled? : answer arguments (filled? position) =
    .ok ((given? arguments position).filter fun text => !Text.allBlank text) := by
  rw [filled?, answer_bind, answer_argument?]
  rfl

theorem filter_given? (written : Text.allBlank (given arguments position) = false) :
    ((given? arguments position).filter fun text => !Text.allBlank text) =
      some (given arguments position) := by
  rw [given] at written ⊢
  cases same : given? arguments position with
  | none =>
    rw [same] at written
    cases written
  | some text =>
    rw [same] at written
    rw [Option.filter_some, if_pos (by simpa using written)]
    rfl

/-- An argument of more than blanks is taken as it is. -/
theorem answer_filled (written : Text.allBlank (given arguments position) = false) :
    answer arguments (filled position) = .ok (given arguments position) := by
  rw [filled, answer_bind, answer_filled?, filter_given? written]
  rfl

end Work

/-- A call shows the answer of its function, or why there is none. -/
theorem Context.renderCall_text (context : Context) {name : String} {function : Function}
    (named : Function.ofName? name = some function) :
    (context.renderCall name arguments).text =
      match Work.answer arguments (function.work context arguments.length) with
      | .ok text => text
      | .error error => "#" ++ function.name ++ ": " ++ error.message := by
  rw [renderCall, named, Work.answer]
  dsimp only
  generalize Query.run arguments (function.work context arguments.length).run = answered
  obtain ⟨result, used⟩ := answered
  cases result <;> rfl

end CreatureNaming
