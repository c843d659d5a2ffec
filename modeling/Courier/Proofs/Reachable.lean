import Courier.Proofs.Budget
import Courier.Proofs.Start

/-!
# What clients come to

A client is built from settings and then used: requests are executed, credentials registered, auth
states committed, settings and loggers replaced, and in the end it is closed. `Client.Reachable` are
the clients that this leads to. None of it changes how often the retry policies send again, and as
both start with the same number, a call is bounded as soon as that number and the limit of redirects
are.
-/

namespace Courier

namespace Client

variable [Codecs]

/-- What is done with a client. -/
inductive Action where
  | execute (request : Http.Request) (script : Exchange.Script)
  | register (scope : Scope) (credentials : Credentials)
  | forgetCredentials
  | putState (host : Scope) (state : AuthState)
  | commitState (host : Scope) (state : AuthState)
  | removeState (host : Scope)
  | forgetStates
  | setConfig (config : Config)
  | setLogger (logger : String)
  | close (fault : Option Fault)

/-- The client after something was done with it. -/
def act (c : Client) : Action → Client
  | .execute request script => (c.execute request script).client
  | .register scope credentials =>
    { c with session := { c.session with store := c.session.store.set scope credentials } }
  | .forgetCredentials => { c with session := { c.session with store := .empty } }
  | .putState host state =>
    { c with session := { c.session with cache := (c.session.cache.put host state).value } }
  | .commitState host state =>
    { c with session := { c.session with cache := (c.session.cache.commit host state).value.1 } }
  | .removeState host =>
    { c with session := { c.session with cache := c.session.cache.remove host } }
  | .forgetStates => { c with session := { c.session with cache := .empty } }
  | .setConfig config => { c with config }
  | .setLogger logger => c.setLogger logger
  | .close fault => (c.close fault).value.1

/-- The client after a number of things were done with it. -/
def after (c : Client) (actions : List Action) : Client := actions.foldl act c

@[simp] theorem after_nil (c : Client) : c.after [] = c := rfl

theorem after_concat (c : Client) (actions : List Action) (action : Action) :
    c.after (actions ++ [action]) = (c.after actions).act action := by
  simp [after]

/-- The clients that using a new one leads to. -/
inductive Reachable : Client → Prop
  | new {c : Client} : c.IsNew → Reachable c
  | act {c : Client} (action : Action) : Reachable c → Reachable (c.act action)

theorem execute_continues (c : Client) (request : Http.Request) (script : Exchange.Script) :
    c.Continues (c.execute request script).client := by
  unfold execute
  split
  · exact .refl c
  · exact Call.run_continues _ _

omit [Codecs] in
theorem close_client (c : Client) (fault : Option Fault) :
    (c.close fault).value.1 =
      if c.closed then c else { c with closed := true, releases := c.releases + 1 } := by
  unfold close
  cases c.closed with
  | true => rfl
  | false =>
    cases fault with
    | none => rfl
    | some fault => simp only [apply_ite Logged.value, apply_ite Prod.fst, ite_self]

/-- Nothing that is done with a client changes how often it sends again. -/
theorem act_maxRetries (c : Client) (action : Action) :
    (c.act action).transportRetry.maxRetries = c.transportRetry.maxRetries ∧
      (c.act action).statusRetry.maxRetries = c.statusRetry.maxRetries := by
  cases action with
  | execute request script =>
    have continues := c.execute_continues request script
    exact ⟨by rw [act, continues.transportRetry], by rw [act, continues.statusRetry]⟩
  | close fault =>
    rw [act, close_client]
    split <;> exact ⟨rfl, rfl⟩
  | _ => exact ⟨rfl, rfl⟩

namespace Reachable

variable {c : Client}

/-- Both retry policies send again equally often. -/
theorem maxRetries_eq (reachable : c.Reachable) :
    c.transportRetry.maxRetries = c.statusRetry.maxRetries := by
  induction reachable with
  | new made =>
    obtain ⟨given, config, logger, created, accepted, built, rfl⟩ := made
    have made := create_madeFrom built
    rw [made.transportRetries, made.statusRetries]
  | act action _ ih =>
    rename_i c _
    rw [(c.act_maxRetries action).1, (c.act_maxRetries action).2, ih]

end Reachable

/-- Whether nothing bounds the sends of a call: the retries or the redirects have no limit. -/
def IsUnbounded (c : Client) : Prop :=
  Budget.ofRetries c.statusRetry.maxRetries = .unlimited ∨
    Budget.ofRedirects c.config.maxRedirects = .unlimited

/-- A call that does not reach an end is one that nothing bounds. -/
theorem Reachable.isUnbounded_of_unfinished {c : Client} (reachable : c.Reachable)
    {request : Http.Request} {script : Exchange.Script}
    (unfinished : (c.execute request script).result = .error .unfinished) : c.IsUnbounded := by
  cases retries : Budget.ofRetries c.statusRetry.maxRetries with
  | unlimited => exact .inl retries
  | limited retryLimit =>
    cases redirects : Budget.ofRedirects c.config.maxRedirects with
    | unlimited => exact .inr redirects
    | limited redirectLimit =>
      have limits : c.Limits retryLimit redirectLimit :=
        ⟨by rw [reachable.maxRetries_eq, retries], retries, redirects⟩
      exact absurd unfinished (execute_finishes limits request script)

end Client

end Courier
