import ZWaveGateway.Event.Basic

/-!
# The router

Every event goes to all listeners that are registered at that moment, in the order in which they
registered, and once per registration. That the network is ready is told once only. A router that
was shut down has no listeners and tells nothing any more.
-/

namespace ZWaveGateway

/-- Which listener: listeners are told apart by who they are, not by what they do. -/
structure ListenerId where
  number : Nat
  deriving DecidableEq, Repr

/-- Who is registered, and what has been told. -/
structure Router where
  registered : List ListenerId
  networkReady : Bool
  closed : Bool
  deriving DecidableEq, Repr

namespace Router

/-- A router that nobody has registered with. -/
def fresh : Router :=
  ⟨[], false, false⟩

/-- Register a listener once more. -/
def subscribe (router : Router) (listener : ListenerId) : Router :=
  { router with registered := router.registered ++ [listener] }

/-- Whether a listener is registered. -/
def isRegistered (router : Router) (listener : ListenerId) : Bool :=
  router.registered.contains listener

/-- Take back all registrations of a listener. -/
def unsubscribe (router : Router) (listener : ListenerId) : Router :=
  { router with registered := router.registered.filter (· != listener) }

/-- Take back all registrations and tell nothing any more. -/
def shutDown (router : Router) : Router :=
  { router with registered := [], closed := true }

/-- The event repeats the news that the network is ready. -/
def repeats (router : Router) (event : Event) : Bool :=
  event == .networkReady && router.networkReady

/-- Tell an event: who is to receive it, in order. -/
def publish (router : Router) (event : Event) : Router × List ListenerId :=
  if router.closed || router.repeats event then (router, [])
  else
    ({ router with networkReady := router.networkReady || event == .networkReady },
      router.registered)

end Router

end ZWaveGateway
