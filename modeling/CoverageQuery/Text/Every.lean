/-!
# Every character of a text

Whether all characters of a text have a property is decided by going through the text, never by
going through all the characters there are.
-/

namespace CoverageQuery.Text

instance (priority := 2000) decidableEvery (p : Char → Prop) [DecidablePred p] (text : List Char) :
    Decidable (∀ c ∈ text, p c) :=
  List.decidableBAll p text

end CoverageQuery.Text
