import RemoteObjects.Proxy.Basic

namespace RemoteObjects.Session

/-- A rule matches when each of its parts does; a part that is absent always does. -/
structure Rule where
  operation : Option String := none
  className : Option String := none
  member : Option String := none
deriving DecidableEq, Repr

inductive PolicyPlan where
  | permitAll
  | denyMatching (rules : List Rule)
deriving Repr

def Rule.matchesPart (wanted : Option String) (found : Option String) : Bool :=
  match wanted with
  | none => true
  | some text => found = some text

def Rule.matchesRequest (rule : Rule) (kind : Kind) (request : Request) : Bool :=
  Rule.matchesPart rule.operation (some kind.text) &&
    Rule.matchesPart rule.className (some request.className) &&
      Rule.matchesPart rule.member request.member?

def PolicyPlan.policy : PolicyPlan → Policy
  | .permitAll => fun _ _ => true
  | .denyMatching rules => fun kind request =>
      !rules.any fun rule => rule.matchesRequest kind request

end RemoteObjects.Session
