import Outbox.Message.Event
import Outbox.Publisher.Response

/-!
# Scripts

A script says how a bus responds to publications.  The first of its rules that fits an event and is
not used up decides; without one the bus accepts the event after its usual delay.
-/

set_option autoImplicit false

namespace Outbox.Simulation

open Publisher (Response)

inductive Ending where
  | accept
  | refuse (error : Error)
  /-- The publication never ends. -/
  | hang
  deriving DecidableEq, Repr

structure Rule where
  topic : Option String := none
  /-- The aggregate that the rule is about, or all of them. -/
  aggregateId : Option Int64 := none
  /-- How often the rule may still be used, if there is a limit. -/
  uses : Option Nat := none
  /-- The delay in milliseconds, or the usual one. -/
  delay : Option Nat := none
  ending : Ending := .accept

structure Script where
  /-- The usual delay in milliseconds. -/
  delay : Nat := 0
  rules : List Rule := []

namespace Rule

/-- The aggregate of an event, if the bytes are one. -/
def aggregateOf? (event : Bytes) : Option Int64 :=
  match Event.decode event with
  | .ok event => some event.aggregateId
  | .error _ => none

/-- The rule can be used for an event. -/
def fits (topic : String) (event : Bytes) (rule : Rule) : Bool :=
  rule.uses != some 0 && (rule.topic == none || rule.topic == some topic) &&
    (rule.aggregateId == none || rule.aggregateId == aggregateOf? event)

def used (rule : Rule) : Rule :=
  { rule with uses := rule.uses.map (· - 1) }

/-- The response of a rule where `delay` is the usual one. -/
def response (delay : Nat) (rule : Rule) : Response :=
  match rule.ending with
  | .accept => .after (Time.pauseOf (rule.delay.getD delay)) (.ok ())
  | .refuse error => .after (Time.pauseOf (rule.delay.getD delay)) (.error error)
  | .hang => .never

end Rule

namespace Script

/-- The first rule that fits, and the rules after its use. -/
def choose (topic : String) (event : Bytes) : List Rule → Option Rule × List Rule
  | [] => (none, [])
  | rule :: rules =>
    if rule.fits topic event then (some rule, rule.used :: rules)
    else
      let (chosen, rules) := choose topic event rules
      (chosen, rule :: rules)

def respond (script : Script) (topic : String) (event : Bytes) : Response × Script :=
  match choose topic event script.rules with
  | (some rule, rules) => (rule.response script.delay, { script with rules := rules })
  | (none, _) => (.after (Time.pauseOf script.delay) (.ok ()), script)

end Script

end Outbox.Simulation
