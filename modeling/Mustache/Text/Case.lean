/-!
**Letter case.**

The case maps of ASCII letters; every other character is left as it is and counts as no letter.

* `upper`, `lower`, `swapCase`: letter by letter.
* `title`: the first letter of each run of letters in upper case, the others in lower case.
-/

namespace Mustache.Text

/-- A text in upper case. -/
def upper (text : String) : String := String.ofList (text.toList.map Char.toUpper)

/-- A text in lower case. -/
def lower (text : String) : String := String.ofList (text.toList.map Char.toLower)

/-- A text with the case of each letter changed. -/
def swapCase (text : String) : String :=
  String.ofList (text.toList.map fun char => if char.isUpper then char.toLower else char.toUpper)

/-- Characters in title case, after a letter or not. -/
def titleFrom (inWord : Bool) : List Char → List Char
  | [] => []
  | char :: rest =>
    (if inWord then char.toLower else char.toUpper) :: titleFrom char.isAlpha rest

/-- A text in title case. -/
def title (text : String) : String := String.ofList (titleFrom false text.toList)

end Mustache.Text
