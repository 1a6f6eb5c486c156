/-! Tables: entries in the order in which their keys first came, one entry for each key.

A table stands for a map, which has no order of its own. A lookup goes by the key alone, and the
order in which a collection is saved is one choice among those that the map allows.
-/

set_option autoImplicit false

namespace CreatureNaming

abbrev Table (Key Value : Type) : Type := List (Key × Value)

namespace Table

variable {Key Value : Type} [DecidableEq Key]

/-- Set the value of a key, at its place if it has one. -/
def put (key : Key) (value : Value) : Table Key Value → Table Key Value
  | [] => [(key, value)]
  | (other, old) :: rest =>
      if other = key then (key, value) :: rest else (other, old) :: put key value rest

def get? (key : Key) : Table Key Value → Option Value
  | [] => none
  | (other, value) :: rest => if other = key then some value else get? key rest

/-- Set all entries, one after the other. -/
def putAll (entries : List (Key × Value)) (table : Table Key Value) : Table Key Value :=
  entries.foldl (fun table (key, value) => put key value table) table

theorem get?_put_same (key : Key) (value : Value) (table : Table Key Value) :
    get? key (put key value table) = some value := by
  induction table with
  | nil => simp [put, get?]
  | cons entry rest ih =>
    unfold put
    split
    · simp [get?]
    · next different => simp [get?, different, ih]

theorem get?_put_other {key other : Key} (value : Value) (table : Table Key Value)
    (different : key ≠ other) : get? other (put key value table) = get? other table := by
  induction table with
  | nil => simp [put, get?, different]
  | cons entry rest ih =>
    unfold put
    split
    · next same => simp [get?, same, different]
    · simp [get?, ih]

theorem get?_putAll_other {key : Key} (entries : List (Key × Value)) (table : Table Key Value)
    (absent : key ∉ entries.map Prod.fst) : get? key (putAll entries table) = get? key table := by
  induction entries generalizing table with
  | nil => rfl
  | cons entry rest ih =>
    rw [List.map_cons, List.mem_cons, not_or] at absent
    exact (ih _ absent.2).trans (get?_put_other _ _ (Ne.symm absent.1))

/-- An entry whose key no other entry has counts. -/
theorem get?_putAll_of_mem {key : Key} {value : Value} {entries : List (Key × Value)}
    (distinct : (entries.map Prod.fst).Nodup) (member : (key, value) ∈ entries)
    (table : Table Key Value) : get? key (putAll entries table) = some value := by
  induction entries generalizing table with
  | nil => cases member
  | cons entry rest ih =>
    rw [List.map_cons, List.nodup_cons] at distinct
    rcases List.mem_cons.mp member with rfl | later
    · exact (get?_putAll_other rest _ distinct.1).trans (get?_put_same _ _ _)
    · exact ih distinct.2 later _

theorem put_fresh {key : Key} (value : Value) {table : Table Key Value}
    (fresh : key ∉ table.map Prod.fst) : put key value table = table ++ [(key, value)] := by
  induction table with
  | nil => rfl
  | cons entry rest ih =>
    rw [List.map_cons, List.mem_cons, not_or] at fresh
    rw [put, if_neg (Ne.symm fresh.1), ih fresh.2, List.cons_append]

theorem putAll_fresh {entries : List (Key × Value)} {table : Table Key Value}
    (distinct : ((table ++ entries).map Prod.fst).Nodup) :
    putAll entries table = table ++ entries := by
  induction entries generalizing table with
  | nil => rw [putAll, List.foldl_nil, List.append_nil]
  | cons entry rest ih =>
    have fresh : entry.1 ∉ table.map Prod.fst := by
      intro member
      rw [List.map_append, List.nodup_append] at distinct
      exact distinct.2.2 _ member _ List.mem_cons_self rfl
    rw [List.append_cons] at distinct ⊢
    rw [← ih distinct, ← put_fresh entry.2 fresh]
    rfl

/-- A table that is put together from its own entries is the same table. -/
theorem putAll_entries {table : Table Key Value} (distinct : (table.map Prod.fst).Nodup) :
    putAll table [] = table :=
  putAll_fresh distinct

theorem nodup_put (key : Key) (value : Value) {table : Table Key Value}
    (distinct : (table.map Prod.fst).Nodup) : ((put key value table).map Prod.fst).Nodup := by
  -- A key that the table has keeps its place, and any other one comes last.
  have kept : key ∈ table.map Prod.fst →
      (put key value table).map Prod.fst = table.map Prod.fst := by
    clear distinct
    intro member
    induction table with
    | nil => cases member
    | cons entry rest ih =>
      rw [put]
      split
      · next same => rw [List.map_cons, List.map_cons, same]
      · next different =>
        have later : key ∈ rest.map Prod.fst :=
          (List.mem_cons.mp member).resolve_left (Ne.symm different)
        rw [List.map_cons, List.map_cons, ih later]
  by_cases member : key ∈ table.map Prod.fst
  · rwa [kept member]
  · rw [put_fresh value member, List.map_append, List.nodup_append]
    refine ⟨distinct, List.nodup_cons.mpr ⟨nofun, List.nodup_nil⟩, ?_⟩
    intro first inside second last same
    rw [same, List.mem_singleton.mp last] at inside
    exact member inside

end Table

end CreatureNaming
