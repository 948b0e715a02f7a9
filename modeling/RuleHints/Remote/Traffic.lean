import RuleHints.Remote.Request

/-!
# Traffic

Requests on their way, in time. A request first waits until the user has paused, then it is sent,
then its answer takes its delay, and then it is an event in a queue. Time moves in `advanceTo` only,
and everything that is due by then happens in the order of time.
-/

namespace RuleHints

structure Waiting where
  generation : Nat
  request : HintRequest
  due : Nat
  deriving DecidableEq, Repr

structure Arriving where
  event : HintEvent
  due : Nat

structure Traffic where
  now : Nat := 0
  /-- Requests not yet sent, the earliest first. -/
  waiting : List Waiting := []
  /-- Answers not yet there, the earliest first. -/
  arriving : List Arriving := []
  /-- Answers that nobody has taken yet, the earliest first. -/
  events : List HintEvent := []
  /-- The requests that were sent, the latest first. -/
  sent : List HintRequest := []

namespace Traffic

/-- Puts an answer after those that are due no later. -/
def insertArriving (arriving : Arriving) : List Arriving → List Arriving
  | [] => [arriving]
  | other :: rest =>
    if arriving.due < other.due then arriving :: other :: rest
    else other :: insertArriving arriving rest

def send (transport : Transport) (traffic : Traffic) (w : Waiting) : Traffic :=
  let reply := transport.answer traffic.sent.length w.request
  { traffic with
    arriving :=
      insertArriving ⟨⟨w.generation, reply.outcome⟩, w.due + reply.delay⟩ traffic.arriving
    sent := w.request :: traffic.sent }

def dispatch (transport : Transport) (time : Nat) (traffic : Traffic) : Traffic :=
  let due := traffic.waiting.filter (·.due ≤ time)
  due.foldl (send transport)
    { traffic with waiting := traffic.waiting.filter fun w => !(w.due ≤ time) }

def deliver (time : Nat) (traffic : Traffic) : Traffic :=
  { traffic with
    events := traffic.events ++ (traffic.arriving.filter (·.due ≤ time)).map (·.event)
    arriving := traffic.arriving.filter fun a => !(a.due ≤ time) }

def settle (transport : Transport) (traffic : Traffic) : Traffic :=
  (traffic.dispatch transport traffic.now).deliver traffic.now

def advanceTo (transport : Transport) (traffic : Traffic) (time : Nat) : Traffic :=
  settle transport { traffic with now := max traffic.now time }

def launch (traffic : Traffic) (generation : Nat) (request : HintRequest) (debounce : Nat) :
    Traffic :=
  { traffic with waiting := traffic.waiting ++ [⟨generation, request, traffic.now + debounce⟩] }

/-- Stops the request of a generation. What is in the queue stays there. -/
def stop (traffic : Traffic) (generation : Nat) : Traffic :=
  { traffic with
    waiting := traffic.waiting.filter (·.generation != generation)
    arriving := traffic.arriving.filter (·.event.generation != generation) }

def take (traffic : Traffic) : Option HintEvent × Traffic :=
  match traffic.events with
  | [] => (none, traffic)
  | event :: rest => (some event, { traffic with events := rest })

def nextArrival? (transport : Transport) (traffic : Traffic) (limit : Nat) : Option Nat :=
  (((traffic.dispatch transport limit).arriving.head?).map (·.due)).filter (· ≤ limit)

/-- Waits for an event, for at most `patience` milliseconds, and takes it. -/
def await (transport : Transport) (traffic : Traffic) (patience : Nat) :
    Option HintEvent × Traffic :=
  if traffic.events.isEmpty then
    let limit := traffic.now + patience
    (traffic.advanceTo transport ((traffic.nextArrival? transport limit).getD limit)).take
  else traffic.take

/-! ### What each operation does to the queue and the clock -/

@[simp] theorem events_stop (traffic : Traffic) (generation : Nat) :
    (traffic.stop generation).events = traffic.events := rfl

@[simp] theorem now_stop (traffic : Traffic) (generation : Nat) :
    (traffic.stop generation).now = traffic.now := rfl

@[simp] theorem sent_stop (traffic : Traffic) (generation : Nat) :
    (traffic.stop generation).sent = traffic.sent := rfl

@[simp] theorem now_send (transport : Transport) (traffic : Traffic) (w : Waiting) :
    (traffic.send transport w).now = traffic.now := rfl

@[simp] theorem events_send (transport : Transport) (traffic : Traffic) (w : Waiting) :
    (traffic.send transport w).events = traffic.events := rfl

@[simp] theorem sent_send (transport : Transport) (traffic : Traffic) (w : Waiting) :
    (traffic.send transport w).sent = w.request :: traffic.sent := rfl

theorem sent_foldl_send (transport : Transport) (due : List Waiting) (traffic : Traffic) :
    (due.foldl (send transport) traffic).sent = (due.map (·.request)).reverse ++ traffic.sent := by
  induction due generalizing traffic with
  | nil => rfl
  | cons w due ih => simp [ih]

theorem sent_dispatch (transport : Transport) (time : Nat) (traffic : Traffic) :
    (traffic.dispatch transport time).sent =
      ((traffic.waiting.filter (·.due ≤ time)).map (·.request)).reverse ++ traffic.sent :=
  sent_foldl_send ..

end Traffic

end RuleHints
