import CreatureNaming.Proofs.Token.Shown
import Mathlib.Data.List.Forall2
import Mathlib.Data.List.Nodup

/-! The catalog of tokens.

A name stands for a token exactly if it is the name under which the catalog lists that token, but
for the case of its letters. The dictionary has one line for each token of the catalog, and shows
there what the name between braces renders as.
-/

set_option autoImplicit false

namespace CreatureNaming

namespace Text

/-- A character in lower or in upper case. -/
def SameLetter (first second : Char) : Prop := first = second.toLower ∨ first = second.toUpper

/-- Two texts of the same characters, each letter in any ASCII case. -/
def SameButForCase (first second : String) : Prop :=
  List.Forall₂ SameLetter first.toList second.toList

/-- A capital letter of ASCII is moved by 32, and every other character stays. -/
theorem toNat_toLower (c : Char) :
    c.toLower.toNat = if 65 ≤ c.toNat ∧ c.toNat ≤ 90 then c.toNat + 32 else c.toNat := by
  have moved : (c.val + 32).toNat = (c.toNat + 32) % 2 ^ 32 := UInt32.toNat_add c.val 32
  unfold Char.toLower
  split
  · next upper =>
    have bounds : 65 ≤ c.toNat ∧ c.toNat ≤ 90 := upper
    rw [if_pos bounds]
    exact moved.trans (Nat.mod_eq_of_lt (by omega))
  · next other => exact (if_neg other).symm

/-- A small letter of ASCII is moved back by 32, and every other character stays. -/
theorem toNat_toUpper (c : Char) :
    c.toUpper.toNat = if 97 ≤ c.toNat ∧ c.toNat ≤ 122 then c.toNat - 32 else c.toNat := by
  have moved : (c.val - 32).toNat = (2 ^ 32 - 32 + c.toNat) % 2 ^ 32 := UInt32.toNat_sub c.val 32
  unfold Char.toUpper
  split
  · next lower =>
    have bounds : 97 ≤ c.toNat ∧ c.toNat ≤ 122 := lower
    have added : (c.val + ('A'.val - 'a'.val)).toNat = (c.val - 32).toNat :=
      congrArg UInt32.toNat (UInt32.sub_eq_add_neg c.val 32).symm
    rw [if_pos bounds]
    exact (added.trans moved).trans (by omega)
  · next other => exact (if_neg other).symm

theorem toLower_eq_iff {first second : Char} :
    first.toLower = second.toLower ↔ SameLetter first second := by
  rw [SameLetter, ← Char.toNat_inj, ← Char.toNat_inj, ← Char.toNat_inj, toNat_toLower,
    toNat_toLower, toNat_toUpper]
  grind

theorem foldCase_eq_iff {first second : String} :
    foldCase first = foldCase second ↔ SameButForCase first second := by
  have letters : (fun c d : Char => c.toLower = d.toLower) = SameLetter := by
    funext c d
    exact propext toLower_eq_iff
  rw [foldCase, foldCase, String.ofList_inj, ← List.forall₂_eq_eq_eq, List.forall₂_map_left_iff,
    List.forall₂_map_right_iff, letters, SameButForCase]

end Text

namespace Token

theorem ofName?_eq_some_iff {name : String} {token : Token} :
    ofName? name = some token ↔ Text.foldCase name = Text.foldCase token.name :=
  ⟨fun found => (foldCase_of_ofName? found).symm, ofName?_of_foldCase⟩

/-- The names that are recognised are those of the catalog, each for its token. -/
theorem ofName?_catalog (name : String) :
    (∀ token, ofName? name = some token ↔
      token ∈ catalog ∧ Text.SameButForCase name token.name) ∧
    (ofName? name = none ↔ ∀ token ∈ catalog, ¬ Text.SameButForCase name token.name) := by
  constructor
  · intro token
    rw [ofName?_eq_some_iff, Text.foldCase_eq_iff, and_iff_right (mem_catalog token)]
  · rw [ofName?_eq_none_iff]
    refine forall₂_congr fun token _ => ?_
    rw [← Text.foldCase_eq_iff, ne_comm]

theorem name_injective : Function.Injective name := by
  intro first second same
  have found : ofName? first.name = some first := ofName?_of_foldCase rfl
  rw [same, ofName?_of_foldCase rfl] at found
  exact (Option.some.inj found).symm

theorem nodup_catalog : catalog.Nodup := by decide +kernel

/-- The catalog lists a name once. -/
theorem filter_catalog (token : Token) :
    (catalog.filter fun other => other.name == token.name) = [token] := by
  have named : (fun other : Token => other.name == token.name) = fun other => other == token := by
    funext other
    rw [Bool.eq_iff_iff, beq_iff_eq, beq_iff_eq, name_injective.eq_iff]
  rw [named, List.filter_beq, List.count_eq_one_of_mem nodup_catalog (mem_catalog token)]
  rfl

end Token

namespace Context

/-- Without a number, a token is rendered as its value even if it is the unique number. -/
theorem renderToken_placeholder (context : Context) (span : Span) {name : String} {token : Token}
    (named : Token.ofName? name = some token) (known : token ≠ .random) :
    (context.renderToken .placeholder span name).text = token.value context := by
  by_cases numbered : token = .uniqueNumber
  · subst numbered
    rw [renderToken_number context .placeholder span named]
    rfl
  · rw [renderToken_value context .placeholder span named numbered known]

theorem render_shown (context : Context) {token : Token} {source : String}
    (shown : token.IsShownBy source) (known : token ≠ .random) :
    (context.render .placeholder (Pattern.parse source)).text = token.value context := by
  obtain ⟨span, name, named, parsed⟩ := shown.parse
  rw [parsed, render, renderNode, render, Rendered.append, Rendered.empty]
  rw [String.append_empty, renderToken_placeholder context span named known]

end Context

/-- The one line of the dictionary under a token's name has what the name renders as. -/
theorem tokenDictionary_shown (context : Context) {token : Token} {source : String}
    (known : token ≠ .random) (shown : token.IsShownBy source) :
    ((tokenDictionary context).filter fun entry => entry.name == token.name).map TokenEntry.value =
      [(context.render .placeholder (Pattern.parse source)).text] := by
  rw [tokenDictionary, List.filter_map]
  change ((Token.catalog.filter fun other => other.name == token.name).map _).map _ = _
  rw [Token.filter_catalog, context.render_shown shown known]
  rfl

/-- The unique number is listed as its placeholder, and so it is rendered under its name in upper
case. -/
theorem tokenDictionary_shown_placeholder :
    let context : Context :=
      { creature := { id := 1 }
        siblings := []
        settings := { placeholder := "?" }
        now := ⟨⟨0, 0⟩, 0⟩
        random := fun _ => "000000" }
    Token.uniqueNumber ≠ .random ∧ Token.uniqueNumber.IsShownBy "\x7bN\x7d" ∧
      ((tokenDictionary context).filter fun entry => entry.name == "n").map TokenEntry.value =
        ["?"] ∧
      (context.render .placeholder (Pattern.parse "\x7bN\x7d")).text = "?" := by
  intro context
  have shown : Token.uniqueNumber.IsShownBy "\x7bN\x7d" := ⟨"N", by decide, by decide⟩
  have listed : ((tokenDictionary context).filter fun entry => entry.name == "n").map
      TokenEntry.value = ["?"] := by decide +kernel
  have same := tokenDictionary_shown context (by decide) shown
  refine ⟨by decide, shown, listed, ?_⟩
  exact (List.cons.inj (same.symm.trans listed)).1

end CreatureNaming
