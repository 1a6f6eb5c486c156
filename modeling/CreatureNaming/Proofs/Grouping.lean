import Mathlib.Data.List.Perm.Basic

/-! Lists that are taken apart into groups and put in order again. -/

set_option autoImplicit false

namespace CreatureNaming

variable {Item Key Result : Type}

/-- One group for each key holds every item once. -/
theorem groups_perm [BEq Key] [LawfulBEq Key] (key : Item → Key) (items : List Item) :
    ((items.map key).eraseDups.flatMap fun shared =>
      items.filter fun item => key item == shared).Perm items := by
  match items with
  | [] => exact .nil
  | item :: rest =>
    -- The first item's group comes first; the other groups are those of the items outside it.
    have later : (rest.filter fun other => key other != key item).length ≤ rest.length :=
      List.length_filter_le _ rest
    have others := groups_perm key (rest.filter fun other => key other != key item)
    have outside : ((item :: rest).filter fun other => !(key other == key item)) =
        rest.filter fun other => key other != key item :=
      List.filter_cons_of_neg (by simp)
    have keys : (rest.map key).filter (fun shared => !(shared == key item)) =
        (rest.filter fun other => key other != key item).map key := List.filter_map
    rw [List.map_cons, List.eraseDups_cons, List.flatMap_cons, keys]
    refine .trans (.append_left _ ?_)
      (List.filter_append_perm (fun other => key other == key item) (item :: rest))
    rw [outside]
    refine .trans (.flatMap_left _ fun shared member => ?_) others
    obtain ⟨other, kept, rfl⟩ := List.mem_map.mp (List.mem_eraseDups.mp member)
    have different := bne_iff_ne.mp (List.mem_filter.mp kept).2
    rw [List.filter_cons, if_neg fun same => different (eq_of_beq same).symm, List.filter_filter]
    refine .of_eq (List.filter_congr fun third _ => ?_)
    cases same : key third == key other with
    | false => rfl
    | true => rw [eq_of_beq same, bne_iff_ne.mpr different, Bool.and_self]
termination_by items.length
decreasing_by exact Nat.lt_succ_of_le later

/-- Results that each group has for its items can be dealt out to all items in their order. -/
theorem exists_dealt [BEq Key] [LawfulBEq Key] (key : Item → Key) (items : List Item)
    (outcomes : Key → List Result)
    (enough : ∀ shared, (outcomes shared).length =
      (items.filter fun item => key item == shared).length) :
    ∃ results : List Result, results.length = items.length ∧ ∀ shared,
      ((results.zip items).filter fun entry => key entry.2 == shared) =
        (outcomes shared).zip (items.filter fun item => key item == shared) := by
  induction items generalizing outcomes with
  | nil => exact ⟨[], rfl, fun shared => by simp⟩
  | cons item rest ih =>
    -- The first result of its group is the first item's; the group goes on with the others.
    have own := enough (key item)
    rw [List.filter_cons_of_pos (by simp), List.length_cons] at own
    obtain ⟨first, later, next⟩ := List.exists_cons_of_length_eq_add_one own
    have fewer (shared : Key) :
        (if key item == shared then later else outcomes shared).length =
          (rest.filter fun item => key item == shared).length := by
      have := enough shared
      by_cases same : key item == shared
      · obtain rfl := eq_of_beq same
        simp_all
      · simp_all
    obtain ⟨results, length, dealt⟩ := ih _ fewer
    refine ⟨first :: results, by simp [length], fun shared => ?_⟩
    by_cases same : key item == shared
    · obtain rfl := eq_of_beq same
      simp [dealt, next]
    · simp [dealt, same]

/-- Results that are dealt out to items with their positions are those of all groups together. -/
theorem dealt_perm [BEq Key] [LawfulBEq Key] (key : Item → Key) {items : List Item}
    {results : List Result} {outcomes : Key → List Result} (length : results.length = items.length)
    (dealt : ∀ shared, (((results.zip items.zipIdx).filter fun entry => key entry.2.1 == shared).map
        fun entry => (entry.1, entry.2.2)) =
      (outcomes shared).zip
        ((items.zipIdx.filter fun entry => key entry.1 == shared).map Prod.snd)) :
    ((items.map key).eraseDups.flatMap fun shared => (outcomes shared).zip
      ((items.zipIdx.filter fun entry => key entry.1 == shared).map Prod.snd)).Perm
        results.zipIdx := by
  have keys : (results.zip items.zipIdx).map (fun entry => key entry.2.1) = items.map key := by
    have entries : (results.zip items.zipIdx).map Prod.snd = items.zipIdx :=
      List.map_snd_zip (Nat.le_of_eq (by rw [length, List.length_zipIdx]))
    conv_rhs => rw [← List.zipIdx_map_fst 0 items, ← entries, List.map_map, List.map_map]
    rfl
  have positions : (results.zip items.zipIdx).map (fun entry => (entry.1, entry.2.2)) =
      results.zipIdx := by
    rw [results.zipIdx_eq_zip_range', length, ← List.zipIdx_map_snd, List.zip_map_right]
    rfl
  have regrouped := (groups_perm (fun entry => key entry.2.1) (results.zip items.zipIdx)).map
    fun entry => (entry.1, entry.2.2)
  rw [positions, keys, List.map_flatMap] at regrouped
  simpa only [dealt] using regrouped

/-- What holds in order within each group holds in order of all items of the same group. -/
theorem pairwise_of_groups [BEq Key] [LawfulBEq Key] (key : Item → Key)
    {related : Item → Item → Prop} {items : List Item}
    (within : ∀ shared, (items.filter fun item => key item == shared).Pairwise related) :
    items.Pairwise fun first second => key first = key second → related first second := by
  induction items with
  | nil => exact .nil
  | cons item rest ih =>
    refine List.pairwise_cons.mpr ⟨fun other member same => ?_, ih fun shared => ?_⟩
    · have own := within (key item)
      rw [List.filter_cons_of_pos (by simp)] at own
      exact List.rel_of_pairwise_cons own (List.mem_filter.mpr ⟨member, by simp [same]⟩)
    · exact (within shared).sublist (.filter _ (List.sublist_cons_self item rest))

/-- Items with their positions come back in order whatever order they were in. -/
theorem mergeSort_positions {items : List Item} {shuffled : List (Item × Nat)}
    (same : shuffled.Perm items.zipIdx) :
    (shuffled.mergeSort fun first second => first.2 ≤ second.2) = items.zipIdx := by
  have increasing : items.zipIdx.Pairwise fun first second => first.2 < second.2 := by
    rw [← List.pairwise_map, List.zipIdx_map_snd]
    exact List.pairwise_lt_range'
  have sorted : (shuffled.mergeSort fun first second => first.2 ≤ second.2).Pairwise
      fun first second => decide (first.2 ≤ second.2) = true := by
    apply List.pairwise_mergeSort
    · intro first second third before after
      exact decide_eq_true (Nat.le_trans (of_decide_eq_true before) (of_decide_eq_true after))
    · intro first second
      simpa using Nat.le_total first.2 second.2
  refine List.Perm.eq_of_pairwise ?_ sorted (increasing.imp fun before => ?_)
    ((List.mergeSort_perm ..).trans same)
  · intro first second inFirst inSecond before after
    have position := Nat.le_antisymm (of_decide_eq_true before) (of_decide_eq_true after)
    have atFirst := List.mem_zipIdx_iff_getElem?.mp
      (same.mem_iff.mp (List.mem_mergeSort.mp inFirst))
    rw [position, List.mem_zipIdx_iff_getElem?.mp inSecond] at atFirst
    exact Prod.ext (Option.some.inj atFirst).symm position
  · exact decide_eq_true (Nat.le_of_lt before)

end CreatureNaming
