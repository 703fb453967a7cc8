import GuildModeration.Text.Blank
import GuildModeration.Text.Caseless

/-!
# Web links

A web link is a web scheme or `www.` at the start of a word, followed by a character that can
belong to an address.
-/

namespace GuildModeration.Link

open GuildModeration.Text

/-- The openings of a web link. -/
def webOpenings : List (List Char) :=
  ["http://".toList, "https://".toList, "www.".toList]

/-- The character can stand in the address after an opening. -/
def isAddressChar (c : Char) : Bool :=
  !isBlank c && c != '<' && c != '>'

/-- The text begins with a character that can stand in an address. -/
def startsAddress : List Char → Bool
  | [] => false
  | c :: _ => isAddressChar c

/-- A web link stands at the front of the text. -/
def isWebLink (cs : List Char) : Bool :=
  webOpenings.any fun opening ↦ ((dropCaseless? opening cs).map startsAddress).getD false

/-- A web link stands somewhere in the text. -/
def hasWebLink (cs : List Char) : Bool :=
  anyWordStart isWebLink cs

end GuildModeration.Link
