import GuildModeration.Cache.Entries

/-!
# The end of the clock

The clock that entries of the cache expire by does not go on for ever. To put in a policy that would
have to be served beyond the last moment of the clock breaks the program down, and so does every
lookup that comes to that.
-/

namespace GuildModeration

/-- The last moment of the clock, in milliseconds: seconds are told in 63 bits. -/
def lastMoment : Nat := (Nat.pow 2 63 - 1) * 1000 + 999

/-- The text of a breakdown at the end of the clock. -/
def clockOverflowText : String := "overflow when adding duration to instant"

namespace ConfigCache

/-- Nothing can be put in. -/
def isBeyondClock (c : ConfigCache) (now : Nat) : Bool :=
  decide (lastMoment < now + c.ttl)

/-- The breakdown of a lookup, if it has one. -/
def breakdown? (c : ConfigCache) (load : GuildId → StoreAnswer) (now : Nat) (guild : GuildId) :
    Option String :=
  match c.fresh? now guild, load guild with
  | none, .ok _ => if c.isBeyondClock now then some clockOverflowText else none
  | _, _ => none

/-- Gets the policies of some guilds one after the other, and counts those that could be had; ends
with the first breakdown. -/
def warmWithin (c : ConfigCache) (load : GuildId → StoreAnswer) (now : Nat)
    (guilds : List GuildId) : Except String (Nat × ConfigCache) :=
  guilds.foldlM (fun (n, c) guild ↦
    match c.breakdown? load now guild with
    | some text => .error text
    | none =>
      let (loaded, c) := c.warm load now [guild]
      .ok (n + loaded, c)) (0, c)

end ConfigCache

end GuildModeration
