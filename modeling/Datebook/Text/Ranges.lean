set_option autoImplicit false

namespace Datebook.Text

abbrev CodeRanges := List (Nat × Nat)

def CodeRanges.contains (ranges : CodeRanges) (character : Char) : Bool :=
  ranges.any fun (first, last) => first ≤ character.toNat && character.toNat ≤ last

end Datebook.Text
