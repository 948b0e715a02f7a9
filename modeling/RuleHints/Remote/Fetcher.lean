import RuleHints.Hint.Payload
import RuleHints.Hint.Session
import RuleHints.Remote.Traffic
import RuleHints.Settings.Basic

/-!
# The fetcher

A fetcher asks endpoints of plugins for hints, one at a time. Each request has a generation, and
only the answer of the pending generation is applied; a new request supersedes the pending one.
-/

namespace RuleHints

structure HintService where
  transport : Option Transport := none
  background : Bool := true
  /-- How long a request waits before it is sent, in milliseconds. -/
  debounce : Nat
  limits : Limits
  index : Text

namespace HintService

def ofSettings (settings : Settings) : HintService where
  debounce := settings.debounce
  limits := settings.limits
  index := settings.pluginsIndex

/-- Runs what needs a transport; without one nothing is ever on its way. -/
def run (service : HintService) (act : Transport → Traffic → Traffic) (traffic : Traffic) :
    Traffic :=
  match service.transport with
  | some transport => act transport traffic
  | none => traffic

end HintService

structure Pending where
  generation : Nat
  key : HintKey
  plugin : Plugin.Metadata
  slot : Plugin.Slot
  deriving DecidableEq, Repr

namespace Pending

def context (pending : Pending) (limits : Limits) (index : Text) : HintContext where
  plugin := pending.plugin
  protocol := pending.key.protocol
  slot := pending.slot
  limits
  index

end Pending

structure Fetcher where
  generation : Nat := 0
  pending : Option Pending := none
  session : Session := {}
  traffic : Traffic := {}

namespace Fetcher

def cancel (fetcher : Fetcher) : Fetcher :=
  match fetcher.pending with
  | some pending =>
    { fetcher with pending := none, traffic := fetcher.traffic.stop pending.generation }
  | none => fetcher

def reset (fetcher : Fetcher) : Fetcher := { fetcher.cancel with session := .cleared }

def install (fetcher : Fetcher) (key : HintKey) (hints : HintSet) : Fetcher :=
  { fetcher with session := .replace key hints }

def start (service : HintService) (fetcher : Fetcher) (plugin : Plugin.Metadata) (key : HintKey)
    (slot : Plugin.Slot) (endpoint : Text) : Fetcher :=
  let generation := fetcher.generation + 1
  let request : HintRequest := ⟨endpoint, key.protocol, key.value, key.separator⟩
  { fetcher with
    generation
    pending := some ⟨generation, key, plugin, slot⟩
    traffic := fetcher.traffic.launch generation request service.debounce }

/-- Schedules a request and gives its generation. Without a transport or an endpoint nothing
happens; if requests cannot run in the background, the pending one is dropped all the same. -/
def schedule (service : HintService) (fetcher : Fetcher) (plugin : Plugin.Metadata) (key : HintKey)
    (slot : Plugin.Slot) : Option Nat × Fetcher :=
  match service.transport, plugin.endpoint? slot with
  | some _, some endpoint =>
    let fetcher := fetcher.cancel
    if service.background then
      let fetcher := fetcher.start service plugin key slot endpoint
      (some fetcher.generation, fetcher)
    else (none, fetcher)
  | _, _ => (none, fetcher)

def render (service : HintService) (pending : Pending) (payload : Payload) : HintSet :=
  { (pending.context service.limits service.index).renderAll payload.items with
    position := payload.position
    offset := payload.offset }

/-- The session after the answer to a request. An answer that cannot be used leaves no list. -/
def answered (service : HintService) (pending : Pending) (outcome : Except Failure Json) :
    Session :=
  match outcome.bind Payload.ofJson with
  | .ok payload => .replace pending.key (render service pending payload)
  | .error _ => .cleared

/-- Applies an event, if it is for the pending request, and says whether there is a list now. -/
def apply (service : HintService) (fetcher : Fetcher) (event : HintEvent) : Bool × Fetcher :=
  match fetcher.pending with
  | some pending =>
    if pending.generation = event.generation then
      let session := answered service pending event.outcome
      (!session.hints.isEmpty, { fetcher with pending := none, session })
    else (false, fetcher)
  | none => (false, fetcher)

@[simp] theorem pending_cancel (fetcher : Fetcher) : fetcher.cancel.pending = none := by
  unfold cancel
  split <;> simp_all

theorem cancel_of_pending {fetcher : Fetcher} (h : fetcher.pending = none) :
    fetcher.cancel = fetcher := by
  rw [cancel, h]

theorem cancel_cancel (fetcher : Fetcher) : fetcher.cancel.cancel = fetcher.cancel :=
  cancel_of_pending (pending_cancel fetcher)

@[simp] theorem generation_cancel (fetcher : Fetcher) :
    fetcher.cancel.generation = fetcher.generation := by
  unfold cancel
  split <;> rfl

@[simp] theorem session_cancel (fetcher : Fetcher) : fetcher.cancel.session = fetcher.session := by
  unfold cancel
  split <;> rfl

@[simp] theorem pending_reset (fetcher : Fetcher) : fetcher.reset.pending = none := by
  simp [reset]

@[simp] theorem session_reset (fetcher : Fetcher) : fetcher.reset.session = .cleared := rfl

theorem apply_of_ne {service : HintService} {fetcher : Fetcher} {event : HintEvent}
    (h : ∀ pending ∈ fetcher.pending, pending.generation ≠ event.generation) :
    fetcher.apply service event = (false, fetcher) := by
  unfold apply
  split
  · next pending hp => rw [if_neg (h pending (by simp [hp]))]
  · rfl

theorem apply_current {service : HintService} {fetcher : Fetcher} {event : HintEvent}
    {pending : Pending} (hp : fetcher.pending = some pending)
    (hg : pending.generation = event.generation) :
    fetcher.apply service event =
      (!(answered service pending event.outcome).hints.isEmpty,
        { fetcher with pending := none, session := answered service pending event.outcome }) := by
  simp [apply, hp, hg]

/-! ### Time -/

def settle (service : HintService) (fetcher : Fetcher) : Fetcher :=
  { fetcher with traffic := service.run Traffic.settle fetcher.traffic }

def advance (service : HintService) (fetcher : Fetcher) (ms : Nat) : Fetcher :=
  { fetcher with
    traffic := service.run (fun transport traffic => traffic.advanceTo transport (traffic.now + ms))
      fetcher.traffic }

def take (fetcher : Fetcher) : Option HintEvent × Fetcher :=
  let (event, traffic) := fetcher.traffic.take
  (event, { fetcher with traffic })

def await (service : HintService) (fetcher : Fetcher) (patience : Nat) :
    Option HintEvent × Fetcher :=
  match service.transport with
  | some transport =>
    let (event, traffic) := fetcher.traffic.await transport patience
    (event, { fetcher with traffic })
  | none => fetcher.take

end Fetcher

end RuleHints
