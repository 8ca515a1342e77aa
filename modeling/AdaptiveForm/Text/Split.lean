/-!
# Splitting text at a separator

Every occurrence of the separator ends a part, so there is always one part more than separators, and
parts may be empty.
-/

namespace AdaptiveForm.Text

def splitChars (separator : Char) : List Char → List (List Char)
  | [] => [[]]
  | c :: cs =>
    if c = separator then [] :: splitChars separator cs
    else
      match splitChars separator cs with
      | [] => [[c]]
      | part :: parts => (c :: part) :: parts

def split (separator : Char) (s : String) : List String :=
  (splitChars separator s.toList).map String.ofList

end AdaptiveForm.Text
