import RemoteObjects.Session.Exchange

namespace RemoteObjects.Session

/-- What a new proxy is given; the rest has its default. -/
structure ProxyPlan where
  kind : Option String := none
  endpoint : Option String := none
  enclave : Option String := none
  timeout : Option Nat := none
  directory : Option String := none
  medium : Option String := none
  link : Option String := none
  registry : Option String := none
  policy : PolicyPlan := .permitAll
deriving Repr

def ProxyPlan.settings (plan : ProxyPlan) : Except Settings.Failure Settings := do
  let defaults : Settings := {}
  let transport ← Settings.readKey plan.kind defaults.transport Settings.readTransport
  pure
    { transport
      endpoint := plan.endpoint.getD defaults.endpoint
      enclave := plan.enclave.getD defaults.enclave
      timeout := plan.timeout }

/-- A shared registry is named; otherwise the proxy has one of its own. -/
def proxyRegistry (name : Option String) : Acting Nat :=
  match name with
  | some name => namedRegistry name
  | none => newRegistry

def linkOfRoute : Proxy.Route String Nat Nat → Acting Nat
  | .given link => pure link
  | .direct directory endpointName => addLink (.direct directory { endpointName })
  | .correlated medium timeout => addLink (.correlated medium timeout)

def optionally {α β : Type} (act : α → Acting β) : Option α → Acting (Option β)
  | none => pure none
  | some value => some <$> act value

def createProxy (name : String) (plan : ProxyPlan) : Acting Outcome := do
  match plan.settings with
  | .error failure => pure (.failed (.settings failure))
  | .ok settings =>
      let link ← optionally (fun link => do known (← get).linkNames link) plan.link
      let medium ← optionally namedMedium plan.medium
      match Proxy.chooseRoute settings link plan.directory medium with
      | .error failure => pure (.failed (.proxy failure))
      | .ok route =>
          let link ← linkOfRoute route
          let registry ← proxyRegistry plan.registry
          emit [Proxy.builtEvent settings]
          let proxy := { settings, link, registry, policy := plan.policy }
          modify fun session => { session with proxies := session.proxies.set name proxy }
          pure .done

/-- Only a policy with rules keeps what it was asked. -/
def recordAsked (name : String) (proxy : ProxyState) (asked : List Request) : Acting Unit :=
  match proxy.policy with
  | .permitAll => pure ()
  | .denyMatching _ =>
      modify fun session =>
        { session with
          proxies := session.proxies.set name { proxy with asked := proxy.asked ++ asked } }

def answerOutcome : Proxy.Answer → Outcome
  | .handle handle => .handle handle
  | .value value => .value value
  | .done => .done

/-- Without an answer, only an operation that gives something shows that it gave nothing. -/
def absentOutcome (action : Proxy.Action) : Outcome :=
  match action with
  | .construct .. | .invoke .. | .readField .. | .readStaticField .. => .absent
  | .finalize .. | .writeField .. | .writeStaticField .. => .done

/-- The strict form reports a failure and the lenient form logs it. -/
def operationOutcome (enclave : String) (strict : Bool) (operation : Proxy.Operation)
    (result : Except Proxy.Failure Proxy.Answer) : Acting Outcome :=
  if strict then pure (.ofExcept .proxy answerOutcome result)
  else do
    let (answer, events) := Proxy.settle enclave operation result
    emit events
    pure ((answer.map answerOutcome).getD (absentOutcome operation.action))

def finishOperation (registry : Nat) (enclave : String) (strict : Bool)
    (pending : Proxy.Pending) (outcome : Except Transport.Failure (Option Reply)) :
    Acting Outcome := do
  let finished := Proxy.finish enclave (← numbered (← get).registries registry) pending outcome
  setRegistry registry finished.state
  emit finished.events
  operationOutcome enclave strict pending.operation finished.result

def operate (step : Nat) (name : String) (operation : Proxy.Operation) (strict : Bool) :
    Acting Outcome := do
  let proxy ← known (← get).proxies name
  let enclave := proxy.settings.enclave
  let registry ← numbered (← get).registries proxy.registry
  let begun := Proxy.begin proxy.policy.policy enclave registry operation
  setRegistry proxy.registry begun.state
  emit begun.events
  recordAsked name proxy begun.result.asked
  match begun.result.begun with
  | .finished result => operationOutcome enclave strict operation result
  | .sending pending =>
      match ← sendOver proxy.link pending.request pending.oneWay with
      | .concluded outcome => finishOperation proxy.registry enclave strict pending outcome
      | .waiting medium trip =>
          suspend
            { step, medium, purpose := .operate proxy.registry enclave strict pending trip }
          pure .pending

inductive ProxyCommand where
  | create (plan : ProxyPlan)
  | asked
  | settings
  | registrySize
  | operate (operation : Proxy.Operation) (strict : Bool)
deriving Repr

def ProxyCommand.perform (step : Nat) (name : String) (command : ProxyCommand) :
    Acting Outcome := do
  match command with
  | .create plan => createProxy name plan
  | .asked =>
      let proxy ← known (← get).proxies name
      modify fun session =>
        { session with proxies := session.proxies.set name { proxy with asked := [] } }
      pure (.asked proxy.asked)
  | .settings =>
      let proxy ← known (← get).proxies name
      pure (.settings proxy.settings)
  | .registrySize =>
      let proxy ← known (← get).proxies name
      pure (.size (← numbered (← get).registries proxy.registry).size)
  | .operate operation strict => Session.operate step name operation strict

end RemoteObjects.Session
