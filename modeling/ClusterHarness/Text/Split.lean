/-!
# Splitting text

Texts split at a separator, and parts of texts found in others.
-/

namespace ClusterHarness.Text

/-- The parts between the separators. There is one part more than there are separators. -/
def splitAt (separator : Char) : List Char → List (List Char)
  | [] => [[]]
  | c :: rest =>
    if c = separator then [] :: splitAt separator rest
    else match splitAt separator rest with
      | [] => [[c]]
      | part :: parts => (c :: part) :: parts

/-- Whether `part` stands at the front of the text. -/
def startsWith (part : List Char) (s : List Char) : Bool := part.isPrefixOf s

/-- Whether `part` stands anywhere in the text. -/
def occursIn (part : List Char) : List Char → Bool
  | [] => part.isEmpty
  | c :: rest => part.isPrefixOf (c :: rest) || occursIn part rest

/-- Whether `part` stands anywhere in `s`. -/
def contains (s part : String) : Bool := occursIn part.toList s.toList

end ClusterHarness.Text
