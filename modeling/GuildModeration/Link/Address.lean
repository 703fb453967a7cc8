import GuildModeration.Text.Blank
import GuildModeration.Text.Lowercase

/-!
# Hosts of typed addresses

Administrators name websites in any spelling: with or without a scheme, `www.`, a port or a path.
Each is brought to its bare host in lower case. A host is known when one of its suffixes at a label
boundary is listed, so that listing a site covers everything below it.
-/

namespace GuildModeration.Link

open GuildModeration.Text

/-- The text behind the first `://`, or the whole text if there is none. -/
def withoutScheme : List Char → List Char
  | cs => go cs cs
where
  /-- Looks for the first `://` in the rest of `whole`. -/
  go (whole : List Char) : List Char → List Char
    | ':' :: '/' :: '/' :: rest => rest
    | _ :: rest => go whole rest
    | [] => whole

/-- The character ends the host in an address. -/
def endsHost (c : Char) : Bool :=
  c == '/' || c == '?' || c == '#' || c == ':'

/-- The text without one `www.` in front. -/
def withoutWww : List Char → List Char
  | 'w' :: 'w' :: 'w' :: '.' :: rest => rest
  | cs => cs

/-- The bare host of an address: in lower case, without scheme, `www.`, port, path, query and
fragment. -/
def bareHostChars (cs : List Char) : List Char :=
  withoutWww ((withoutScheme (lowerChars (trimChars cs))).takeWhile (!endsHost ·))

/-- The bare host of an address. -/
def bareHost (address : String) : String :=
  String.ofList (bareHostChars address.toList)

/-- What follows each dot of a host, from left to right. -/
def afterDots : List Char → List (List Char)
  | [] => []
  | '.' :: rest => rest :: afterDots rest
  | _ :: rest => afterDots rest

/-- A host and everything that it is a part of, longest first. -/
def hostSuffixes (host : String) : List String :=
  host :: (afterDots host.toList).map String.ofList

end GuildModeration.Link
