/-!
# ASCII letters

Commands and mechanism names ignore case in the ASCII range and nowhere else.
-/

namespace IrcClient

/-- The text with the letters `a` to `z` in upper case and all else as it is. -/
def upper (s : String) : String :=
  String.ofList (s.toList.map Char.toUpper)

/-- Whether two texts differ at most in the case of ASCII letters. -/
def sameLetters (a b : String) : Bool :=
  upper a == upper b

end IrcClient
