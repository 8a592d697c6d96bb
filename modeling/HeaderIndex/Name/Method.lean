import HeaderIndex.Name

/-!
# Methods

A function whose name starts with the name of a type is a method of that type.  `Name.method?` says
so and gives the rest of the function's name.
-/

namespace HeaderIndex.Name

/-- Takes words away as long as they spell the beginning of `target`; what is left of the target and
of the words. -/
def consume : List Char → List String → List Char × List String
  | target, [] => (target, [])
  | target, word :: rest =>
    if target ≠ [] ∧ (Text.lower word.toList).isPrefixOf target then
      consume (target.drop word.length) rest
    else (target, word :: rest)

/-- The name of a function as a method of an owner: the words after those that spell the owner's
name, if there are some. -/
def method? (owner function : Name) : Option Name :=
  match Text.lower (owner.parts.flatMap String.toList) with
  | [] => none
  | target =>
    match consume target function.parts with
    | ([], word :: rest) => some ⟨word :: rest, none⟩
    | _ => none

end HeaderIndex.Name
