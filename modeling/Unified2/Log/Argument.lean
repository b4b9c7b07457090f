import Unified2.Number.Places
import Unified2.Text.Quoted

/-! Values that are put into messages. -/

namespace Unified2

/-- An argument of a message. -/
inductive LogArgument
  | nothing
  | flag (value : Bool)
  | integer (value : Int)
  | decimal (value : Binary64)
  | text (content : String)
  | list (items : List LogArgument)
  | dictionary (members : List (String × LogArgument))

namespace LogArgument

mutual

/-- An argument as a message shows it inside others; texts are in quotes. -/
def quoted : LogArgument → List Char
  | nothing => "None".toList
  | flag value => (if value then "True" else "False").toList
  | integer value => (toString value).toList
  | decimal value => value.text.toList
  | text content => (Text.quoted content).toList
  | list items => '[' :: quotedItems items ++ [']']
  | dictionary members => '\x7b' :: quotedMembers members ++ ['\x7d']

/-- The items of a list, with commas between them. -/
def quotedItems : List LogArgument → List Char
  | [] => []
  | [item] => item.quoted
  | item :: next :: rest => item.quoted ++ [',', ' '] ++ quotedItems (next :: rest)

/-- The members of a dictionary, with commas between them. -/
def quotedMembers : List (String × LogArgument) → List Char
  | [] => []
  | [(name, value)] => (Text.quoted name).toList ++ [':', ' '] ++ value.quoted
  | (name, value) :: next :: rest =>
    (Text.quoted name).toList ++ [':', ' '] ++ value.quoted ++ [',', ' '] ++
      quotedMembers (next :: rest)

end

/-- An argument as a message shows it; a text is shown as it is. -/
def shown : LogArgument → List Char
  | text content => content.toList
  | argument => argument.quoted

/-- The whole number that an argument is. -/
def integer? : LogArgument → Option Int
  | integer value => some value
  -- A flag is a number wherever one is asked for.
  | flag value => some (if value then 1 else 0)
  | _ => none

/-- The whole number that an argument is cut to. -/
def truncated? : LogArgument → Option Int
  | decimal (.finite negative units) =>
    -- Places are cut off, so the number moves towards zero.
    some (Binary64.signed negative (units / Binary64.unitsPerOne))
  | argument => argument.integer?

/-- The floating-point number nearest to an argument; a whole number may be too large for one. -/
def decimal? (argument : LogArgument) : Option Binary64 :=
  match argument, argument.integer? with
  | decimal value, _ => some value
  | _, some value => match Binary64.ofInt value with
    -- A number that large is refused rather than made infinite.
    | .infinite _ => none
    | found => some found
  | _, none => none

/-- The character that an argument is, or is the code point of. -/
def char? (argument : LogArgument) : Option Char :=
  match argument, argument.integer? with
  | text content, _ => match content.toList with
    | [char] => some char
    | _ => none
  | _, some value =>
    if 0 ≤ value ∧ value < 0x110000 then some (singleChar value.toNat) else none
  | _, none => none
where
  -- Half of a surrogate pair is no character.
  singleChar (code : Nat) : Char :=
    if 0xd800 ≤ code ∧ code < 0xe000 then '\ufffd' else Char.ofNat code

end LogArgument

end Unified2
