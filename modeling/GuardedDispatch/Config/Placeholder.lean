/-!
# Placeholders for environment variables

In a configuration text, a dollar sign before a name in braces stands for the value of a variable.
The name may be followed by a colon, a dash and a text that holds instead of a variable that is not
set. The text is gone through once from left to right; what is put in is not looked at again.
-/

namespace GuardedDispatch

/-- The values of the variables that have one which is text; a value that is none counts as absent. -/
abbrev Environment := String → Option String

/-- Whether a character may begin the name of a variable. -/
def beginsName (c : Char) : Bool := c.isAlpha || c == '_'

/-- Whether a character may continue the name of a variable. -/
def continuesName (c : Char) : Bool := c.isAlphanum || c == '_'

/-- A placeholder: its name and the text for a variable that is not set. -/
structure Placeholder where
  name : String
  fallback : String
  deriving DecidableEq, Repr

namespace Placeholder

/-- The end of a placeholder after its name: a brace, or a fallback and a brace. -/
def closing? (name : String) : List Char → Option (Placeholder × List Char)
  | '}' :: rest => some (⟨name, ""⟩, rest)
  | ':' :: '-' :: rest =>
    match rest.dropWhile (· != '}') with
    | _ :: after => some (⟨name, String.ofList (rest.takeWhile (· != '}'))⟩, after)
    | [] => none
  | _ => none

/-- The placeholder at the front of a text, and the rest of the text. -/
def read? : List Char → Option (Placeholder × List Char)
  | '$' :: '{' :: c :: rest =>
    if beginsName c then
      closing? (String.ofList (c :: rest.takeWhile continuesName)) (rest.dropWhile continuesName)
    else none
  | _ => none

/-- What a placeholder stands for. -/
def value (p : Placeholder) (env : Environment) : String := (env p.name).getD p.fallback

end Placeholder

/-- Puts values in for the placeholders of a text of at most `fuel` characters. -/
def expandChars (env : Environment) (fuel : Nat) (cs : List Char) : List Char :=
  match fuel, cs with
  | 0, _ | _, [] => []
  | fuel + 1, c :: rest =>
    match Placeholder.read? (c :: rest) with
    | some (p, after) => (p.value env).toList ++ expandChars env fuel after
    | none => c :: expandChars env fuel rest

/-- The names of the variables that a text of at most `fuel` characters mentions. -/
def mentionedNames (fuel : Nat) (cs : List Char) : List String :=
  match fuel, cs with
  | 0, _ | _, [] => []
  | fuel + 1, c :: rest =>
    match Placeholder.read? (c :: rest) with
    | some (p, after) => p.name :: mentionedNames fuel after
    | none => mentionedNames fuel rest

/-- Puts values in for the placeholders of a text. -/
def expand (env : Environment) (s : String) : String :=
  String.ofList (expandChars env s.length s.toList)

end GuardedDispatch
