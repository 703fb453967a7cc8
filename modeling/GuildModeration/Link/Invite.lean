import GuildModeration.Text.Caseless

/-!
# Server invites

An invite is one of the addresses under which servers are joined, at the start of a word, followed
by a slash and at least one character of an invite code.
-/

namespace GuildModeration.Link

open GuildModeration.Text

/-- The addresses under which a server is joined, up to the slash before the code. -/
def inviteOpenings : List (List Char) :=
  ["discord.gg/".toList, "discord.com/invite/".toList, "discordapp.com/invite/".toList]

/-- The character can stand in an invite code. -/
def isCodeChar (c : Char) : Bool :=
  isLatinOrDigit c || c == '-'

/-- The text begins with a character of an invite code. -/
def startsCode : List Char → Bool
  | [] => false
  | c :: _ => isCodeChar c

/-- An invite stands at the front of the text. -/
def isInvite (cs : List Char) : Bool :=
  inviteOpenings.any fun opening ↦ ((dropCaseless? opening cs).map startsCode).getD false

/-- An invite stands somewhere in the text. -/
def hasInvite (cs : List Char) : Bool :=
  anyWordStart isInvite cs

end GuildModeration.Link
