/-!
# Joined texts

Texts one after the other with a separator between neighbours.
-/

namespace CoverageQuery.Text

def joined (separator : List Char) : List (List Char) → List Char
  | [] => []
  | [text] => text
  | text :: next :: texts => text ++ separator ++ joined separator (next :: texts)

@[simp] theorem joined_nil (separator : List Char) : joined separator [] = [] := rfl

@[simp] theorem joined_singleton (separator text : List Char) :
    joined separator [text] = text := rfl

@[simp] theorem joined_cons_cons (separator text next : List Char) (texts : List (List Char)) :
    joined separator (text :: next :: texts) =
      text ++ separator ++ joined separator (next :: texts) := rfl

end CoverageQuery.Text
