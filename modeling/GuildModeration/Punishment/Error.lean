import GuildModeration.Punishment.Stage

/-!
# Failures of moderation actions

Why an action was not carried out. Some failures follow from how a guild is set up, and nobody has
to look into them.
-/

namespace GuildModeration.Punishment

/-- Why an action failed. -/
inductive ActionError where
  /-- The guild has no way of muting. -/
  | cannotMute
  | missingPermissions
  | missingAccess
  /-- The moderation service refused for another reason. -/
  | refused (text : String)
  /-- A punishment left the order of its stages. -/
  | outOfOrder (source target : Stage)
  | other (text : String)
  deriving DecidableEq, Repr

namespace ActionError

/-- The wording of a failure. -/
def message : ActionError → String
  | cannotMute => "No mute role or timeout configured"
  | missingPermissions => "Missing permissions"
  | missingAccess => "Missing access"
  | refused text => s!"Discord API error: {text}"
  | outOfOrder source target =>
    s!"Invalid punishment stage transition from {source.name} to {target.name}"
  | other text => s!"Action error: {text}"

/-- The failure follows from how the guild is set up. -/
def isExpected : ActionError → Bool
  | cannotMute => true
  | missingPermissions => true
  | missingAccess => true
  | _ => false

end ActionError

/-- Moves a punishment on to a stage. -/
def Stage.advance (current target : Stage) : Except ActionError Stage :=
  if current.next? = some target then .ok target else .error (.outOfOrder current target)

theorem Stage.advance_eq_ok_iff {current target after : Stage} :
    current.advance target = .ok after ↔ current.next? = some target ∧ after = target := by
  unfold Stage.advance
  split <;> simp_all [eq_comm]

end GuildModeration.Punishment
