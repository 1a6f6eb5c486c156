import CreatureNaming.Token.Key

/-! Which token a name stands for.

A name is looked up by its beginning and ending, not in the catalog. It names a token exactly if
the catalog lists that token under this name, in any case.
-/

set_option autoImplicit false

namespace CreatureNaming

namespace Text

theorem foldCase_append (first second : String) :
    foldCase (first ++ second) = foldCase first ++ foldCase second := by
  simp [foldCase, String.ofList_append]

theorem foldCase_foldCase (text : String) : foldCase (foldCase text) = foldCase text := by
  have twice : Char.toLower ∘ Char.toLower = Char.toLower := by
    funext c
    rw [Function.comp_apply]
    delta Char.toLower
    grind
  simp [foldCase, twice]

end Text

namespace Token

theorem stripStart?_eq_some {start text rest : List Char}
    (stripped : stripStart? start text = some rest) : text = start ++ rest := by
  unfold stripStart? at stripped
  split at stripped
  · next starts =>
    cases stripped
    exact (List.prefix_iff_eq_append.mp (List.isPrefixOf_iff_prefix.mp starts)).symm
  · cases stripped

theorem stripEnd?_eq_some {ending text rest : List Char}
    (stripped : stripEnd? ending text = some rest) : text = rest ++ ending := by
  unfold stripEnd? at stripped
  split at stripped
  · next ends =>
    cases stripped
    exact (List.suffix_iff_eq_append.mp (List.isSuffixOf_iff_suffix.mp ends)).symm
  · cases stripped

theorem foldCase_of_ofCode? {code : String} {stat : Stat} (found : Stat.ofCode? code = some stat) :
    Text.foldCase stat.code = Text.foldCase code :=
  eq_of_beq (List.find?_some (p := fun stat : Stat => Text.equalFolded stat.code code) found)

theorem comparison?_eq_some {name code : List Char} {make : Stat → Token}
    {table : List (List Char × (Stat → Token))}
    (found : comparison? name table = some (code, make)) :
    ∃ start, (start, make) ∈ table ∧ name = start ++ code := by
  induction table with
  | nil => cases found
  | cons entry rest ih =>
    unfold comparison? at found
    split at found
    · next stripped =>
      obtain ⟨rfl, rfl⟩ := Prod.mk.inj (Option.some.inj found)
      exact ⟨entry.1, List.mem_cons_self, stripStart?_eq_some stripped⟩
    · obtain ⟨start, member, same⟩ := ih found
      exact ⟨start, List.mem_cons_of_mem _ member, same⟩

/-- A token of a comparison is named by the beginning that it is listed under, and a stat. -/
theorem name_of_comparison {start : List Char} {make : Stat → Token}
    (listed : (start, make) ∈ comparisons) (stat : Stat) :
    Text.foldCase (make stat).name = Text.foldCase (.ofList start) ++ Text.foldCase stat.code := by
  simp only [comparisons, List.mem_cons, List.not_mem_nil, or_false, Prod.mk.injEq] at listed
  rcases listed with ⟨rfl, rfl⟩ | ⟨rfl, rfl⟩ | ⟨rfl, rfl⟩ | ⟨rfl, rfl⟩
  all_goals
    rw [name, Text.foldCase_append]
    exact congrArg (· ++ Text.foldCase stat.code) (by decide)

theorem rankText_of_rank? {digit : Char} {rank : Fin 6} (ranked : rank? digit = some rank) :
    rankText rank = .ofList [digit] := by
  have shown : ∀ rank : Fin 6, rankText rank = .ofList [Char.ofNat (rank.val + 49)] := by decide
  unfold rank? at ranked
  split at ranked
  · next value valued =>
    obtain ⟨inside, same⟩ := Option.dite_none_right_eq_some.mp ranked
    cases same
    obtain ⟨-, valued⟩ := Option.ite_none_right_eq_some.mp valued
    have zero : '0'.toNat = 48 := rfl
    have code : digit.toNat = value + 49 := by
      rw [zero, Option.some.injEq] at valued
      omega
    rw [shown, ← code, Char.ofNat_toNat]
  · cases ranked

theorem name_of_ofRank? {letters : List Char} {token : Token}
    (found : ofRank? letters = some token) : token.name = "highest" ++ .ofList letters := by
  unfold ofRank? at found
  split at found
  · next digit =>
    obtain ⟨rank, ranked, rfl⟩ := Option.map_eq_some_iff.mp found
    have joined : String.ofList ([digit] ++ ['l']) = .ofList [digit] ++ .ofList ['l'] :=
      String.ofList_append
    rw [name, rankText_of_rank? ranked, String.append_assoc]
    exact congrArg ("highest" ++ ·) joined.symm
  · next digit =>
    obtain ⟨rank, ranked, rfl⟩ := Option.map_eq_some_iff.mp found
    have joined : String.ofList ([digit] ++ ['s']) = .ofList [digit] ++ .ofList ['s'] :=
      String.ofList_append
    rw [name, rankText_of_rank? ranked, String.append_assoc]
    exact congrArg ("highest" ++ ·) joined.symm
  · cases found

theorem foldCase_of_fixedNames :
    ∀ entry ∈ fixedNames, Text.foldCase entry.2.name = entry.1 := by
  decide +kernel

theorem foldCase_of_ofFolded? {folded : String} {token : Token}
    (found : ofFolded? folded = some token) :
    Text.foldCase token.name = Text.foldCase folded := by
  have joined {first second : List Char} (whole : folded.toList = first ++ second) :
      folded = .ofList first ++ .ofList second := by
    rw [← String.ofList_append, ← whole, String.ofList_toList]
  unfold ofFolded? at found
  split at found
  · next written token named =>
    cases found
    have same : written = folded :=
      eq_of_beq (List.find?_some (p := fun entry : String × Token => entry.1 == folded) named)
    have known : Text.foldCase token.name = written :=
      foldCase_of_fixedNames (written, token) (List.mem_of_find?_eq_some named)
    rw [← same, ← known, Text.foldCase_foldCase]
  · split at found
    · next stat coded =>
      cases found
      exact foldCase_of_ofCode? coded
    · split at found
      · next code stripped =>
        obtain ⟨stat, coded, rfl⟩ := Option.map_eq_some_iff.mp found
        rw [joined (stripEnd?_eq_some stripped), Text.foldCase_append, ← foldCase_of_ofCode? coded,
          ← Text.foldCase_append]
        rfl
      · split at found
        · next code make compared =>
          obtain ⟨stat, coded, rfl⟩ := Option.map_eq_some_iff.mp found
          obtain ⟨start, listed, whole⟩ := comparison?_eq_some compared
          rw [joined whole, Text.foldCase_append, ← foldCase_of_ofCode? coded,
            name_of_comparison listed]
        · obtain ⟨letters, stripped, ranked⟩ := Option.bind_eq_some_iff.mp found
          rw [joined (stripStart?_eq_some stripped), name_of_ofRank? ranked]
          rfl

/-- A token is found by its own name only. -/
theorem foldCase_of_ofName? {token : Token} {name : String} (found : ofName? name = some token) :
    Text.foldCase token.name = Text.foldCase name := by
  rw [foldCase_of_ofFolded? found, Text.foldCase_foldCase]

theorem ofFolded?_catalog :
    ∀ token ∈ catalog, ofFolded? (Text.foldCase token.name) = some token := by
  decide +kernel

theorem mem_catalog (token : Token) : token ∈ catalog := by
  have stats := Stat.mem_all
  have ranked : ∀ rank, rank ∈ ranks := by decide
  cases token <;> simp [catalog, leading, trailing, stats, ranked]

/-- A name that stands for no token is not in the catalog, in any case. -/
theorem ofName?_eq_none_iff {name : String} :
    ofName? name = none ↔ ∀ token ∈ catalog, Text.foldCase token.name ≠ Text.foldCase name := by
  constructor
  · intro unknown token listed same
    rw [ofName?, ← same, ofFolded?_catalog token listed] at unknown
    cases unknown
  · intro unlisted
    cases found : ofName? name with
    | none => rfl
    | some token => exact absurd (foldCase_of_ofName? found) (unlisted token (mem_catalog token))

end Token

end CreatureNaming
