import CreatureNaming.Table

/-! The table of texts that stand for other texts. -/

set_option autoImplicit false

namespace CreatureNaming

abbrev Replacements : Type := Table String String

/-- The document with which a new table begins. -/
def Replacements.exampleText : String :=
  "\x7b\n  \"Allosaurus\": \"Allo\",\n  \"Snow Owl\": \"Owl\"\n\x7d\n"

end CreatureNaming
