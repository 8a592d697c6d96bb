/-!
# Texts within texts
-/

namespace HeaderIndex.Text

/-- Whether a text occurs anywhere in another one. -/
def occursIn (part : List Char) : List Char → Bool
  | [] => part.isEmpty
  | c :: rest => part.isPrefixOf (c :: rest) || occursIn part rest

end HeaderIndex.Text
