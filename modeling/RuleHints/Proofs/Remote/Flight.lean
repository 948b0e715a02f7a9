import Mathlib.Data.List.Nodup
import RuleHints.Proofs.Remote.Runs

/-!
# One request on its way

Runs of a fetcher that can send and to which only its own events are applied. After each action
everything happens that is due. A journal keeps what was seen of the run. Whatever the order of the
actions and the delays of the answers, there is at most one request on its way, and it is the pending
one: it waits to be sent, or its answer is arriving.
-/

namespace RuleHints

namespace Traffic

/-- The generations of the requests on their way. -/
def live (traffic : Traffic) : List Nat :=
  traffic.waiting.map (·.generation) ++ traffic.arriving.map (·.event.generation)

/-- The requests that are to be sent by a time. -/
def dueBy (traffic : Traffic) (time : Nat) : List Waiting := traffic.waiting.filter (·.due ≤ time)

theorem waiting_foldl_send (transport : Transport) (due : List Waiting) (traffic : Traffic) :
    (due.foldl (send transport) traffic).waiting = traffic.waiting := by
  induction due generalizing traffic with
  | nil => rfl
  | cons w due ih =>
    rw [List.foldl_cons, ih]
    rfl

theorem now_foldl_send (transport : Transport) (due : List Waiting) (traffic : Traffic) :
    (due.foldl (send transport) traffic).now = traffic.now := by
  induction due generalizing traffic with
  | nil => rfl
  | cons w due ih => rw [List.foldl_cons, ih, now_send]

theorem waiting_settle (transport : Transport) (traffic : Traffic) :
    (traffic.settle transport).waiting = traffic.waiting.filter fun w => !(w.due ≤ traffic.now) :=
  waiting_foldl_send ..

theorem now_settle (transport : Transport) (traffic : Traffic) :
    (traffic.settle transport).now = traffic.now :=
  now_foldl_send ..

/- With at most one request on its way, what is due is at most one thing at a time. -/
theorem dispatch_of_dueBy_nil {traffic : Traffic} {time : Nat} (transport : Transport)
    (h : traffic.dueBy time = []) : traffic.dispatch transport time = traffic := by
  have hkept : traffic.waiting.filter (fun w => !(w.due ≤ time)) = traffic.waiting := by
    rw [List.filter_eq_self]
    intro w hw
    have hnot := List.filter_eq_nil_iff.1 h w hw
    simpa using hnot
  unfold dispatch
  unfold dueBy at h
  rw [h, hkept]
  rfl

theorem dispatch_single {traffic : Traffic} {w : Waiting} {time : Nat} (transport : Transport)
    (hw : traffic.waiting = [w]) (ha : traffic.arriving = []) (hd : w.due ≤ time) :
    let reply := transport.answer traffic.sent.length w.request
    traffic.dispatch transport time =
      { traffic with
        waiting := []
        arriving := [⟨⟨w.generation, reply.outcome⟩, w.due + reply.delay⟩]
        sent := w.request :: traffic.sent } := by
  simp [dispatch, hw, hd, send, ha, insertArriving]

theorem deliver_of_late {traffic : Traffic} {time : Nat}
    (h : ∀ a ∈ traffic.arriving, time < a.due) : traffic.deliver time = traffic := by
  have hnone : traffic.arriving.filter (·.due ≤ time) = [] := by
    rw [List.filter_eq_nil_iff]
    intro a ha
    have hlt := h a ha
    simpa using hlt
  have hkept : traffic.arriving.filter (fun a => !(a.due ≤ time)) = traffic.arriving := by
    rw [List.filter_eq_self]
    intro a ha
    have hlt := h a ha
    simpa using hlt
  unfold deliver
  rw [hnone, hkept]
  simp

theorem deliver_single {traffic : Traffic} {a : Arriving} {time : Nat}
    (ha : traffic.arriving = [a]) (hd : a.due ≤ time) :
    traffic.deliver time = { traffic with arriving := [], events := traffic.events ++ [a.event] } := by
  simp [deliver, ha, hd]

end Traffic

namespace Fetcher

/-! ### Runs -/

/-- What is done with a fetcher. An event is taken from the queue; one that was taken may be applied
at any time, and more than once. -/
inductive Action where
  | schedule (plugin : Plugin.Metadata) (key : HintKey) (slot : Plugin.Slot)
  | cancel
  | reset
  | advance (ms : Nat)
  | take
  | apply (index : Nat)

/-- A fetcher and what was seen of it besides the generations that were given: the events that were
taken, and the requests that were sent, the earliest first. -/
structure Journal extends Dated where
  taken : List HintEvent := []
  calls : List Waiting := []

namespace Journal

/-- The fetcher does an operation in which nothing is taken or sent. -/
def perform (service : HintService) (journal : Journal) (operation : Operation) : Journal :=
  { journal with toDated := journal.toDated.step service operation }

def act (service : HintService) (journal : Journal) : Action → Journal
  | .schedule plugin key slot =>
    journal.perform service (.schedule service.background plugin key slot)
  | .cancel => journal.perform service .cancel
  | .reset => journal.perform service .reset
  | .advance ms =>
    let traffic := journal.fetcher.traffic
    { journal.perform service (.advance ms) with
      calls := journal.calls ++ traffic.dueBy (traffic.now + ms) }
  | .take =>
    { journal.perform service .take with
      taken := journal.taken ++ journal.fetcher.take.1.toList }
  | .apply index =>
    match journal.taken[index]? with
    | some event => journal.perform service (.apply event)
    | none => journal

def settle (service : HintService) (journal : Journal) : Journal :=
  let traffic := journal.fetcher.traffic
  { journal.perform service .settle with calls := journal.calls ++ traffic.dueBy traffic.now }

/-- Only the clock moves. -/
def later (journal : Journal) (ms : Nat) : Journal :=
  let traffic := journal.fetcher.traffic
  { journal with
    fetcher := { journal.fetcher with traffic := { traffic with now := traffic.now + ms } } }

def step (service : HintService) (journal : Journal) (action : Action) : Journal :=
  (journal.act service action).settle service

def run (service : HintService) (journal : Journal) (actions : List Action) : Journal :=
  actions.foldl (step service) journal

/-- The events that were queued so far, taken or not. -/
def delivered (journal : Journal) : List HintEvent := journal.taken ++ journal.fetcher.traffic.events

theorem act_moves (service : HintService) (journal : Journal) (action : Action) :
    Dated.Moves journal.toDated (journal.act service action).toDated := by
  cases action with
  | schedule plugin key slot =>
    exact Dated.moves_step service journal.toDated (.schedule service.background plugin key slot)
  | cancel => exact Dated.moves_step service journal.toDated .cancel
  | reset => exact Dated.moves_step service journal.toDated .reset
  | advance ms => exact Dated.moves_step service journal.toDated (.advance ms)
  | take => exact Dated.moves_step service journal.toDated .take
  | apply index =>
    simp only [act]
    split
    · exact Dated.moves_step service journal.toDated (.apply _)
    · exact .kept rfl rfl rfl

theorem settle_moves (service : HintService) (journal : Journal) :
    Dated.Moves journal.toDated (journal.settle service).toDated :=
  Dated.moves_step service journal.toDated .settle

theorem run_nil (service : HintService) (journal : Journal) : journal.run service [] = journal := rfl

theorem run_cons (service : HintService) (journal : Journal) (action : Action)
    (actions : List Action) :
    journal.run service (action :: actions) = (journal.step service action).run service actions :=
  rfl

theorem run_append (service : HintService) (journal : Journal) (before later : List Action) :
    journal.run service (before ++ later) = (journal.run service before).run service later :=
  List.foldl_append

end Journal

/-! ### The invariant -/

/-- The event brings what the transport answered to a call, under the generation of that call. -/
def Answers (transport : Transport) (calls : List Waiting) (event : HintEvent) : Prop :=
  ∃ i call, calls[i]? = some call ∧ call.generation = event.generation ∧
    event.outcome = (transport.answer i call.request).outcome

theorem Answers.append {transport : Transport} {calls : List Waiting} {event : HintEvent}
    (h : Answers transport calls event) (more : List Waiting) :
    Answers transport (calls ++ more) event := by
  obtain ⟨i, call, hi, hrest⟩ := h
  obtain ⟨hlt, _⟩ := List.getElem?_eq_some_iff.1 hi
  exact ⟨i, call, (List.getElem?_append_left hlt).trans hi, hrest⟩

theorem Answers.called {transport : Transport} {calls : List Waiting} {event : HintEvent}
    (h : Answers transport calls event) : event.generation ∈ calls.map (·.generation) := by
  obtain ⟨i, call, hi, hg, _⟩ := h
  exact List.mem_map.2 ⟨call, List.mem_of_getElem? hi, hg⟩

/-- Where the one request on its way is, if there is one. -/
inductive Phase (transport : Transport) (calls : List Waiting) (delivered : List HintEvent)
    (pending : Option Pending) (traffic : Traffic) : Prop where
  | idle (hw : traffic.waiting = []) (ha : traffic.arriving = [])
  | waiting (w : Waiting) (p : Pending) (hw : traffic.waiting = [w]) (ha : traffic.arriving = [])
      (hp : pending = some p) (hg : p.generation = w.generation)
      (hc : w.generation ∉ calls.map (·.generation))
  | arriving (a : Arriving) (p : Pending) (hw : traffic.waiting = [])
      (ha : traffic.arriving = [a]) (hp : pending = some p)
      (hg : p.generation = a.event.generation) (hc : Answers transport calls a.event)
      (hd : a.event.generation ∉ delivered.map (·.generation))

/-- What holds all along a run. -/
structure Orderly (transport : Transport) (journal : Journal) : Prop where
  phase : Phase transport journal.calls journal.delivered journal.fetcher.pending
    journal.fetcher.traffic
  inOrder : journal.toDated.InOrder
  log : journal.calls.map (·.request) = journal.fetcher.traffic.sent.reverse
  once : (journal.calls.map (·.generation)).Nodup
  called : ∀ call ∈ journal.calls, call.generation ≤ journal.fetcher.generation
  answered : ∀ event ∈ journal.delivered, Answers transport journal.calls event
  answeredOnce : (journal.delivered.map (·.generation)).Nodup

theorem orderly_start (transport : Transport) : Orderly transport {} where
  phase := .idle rfl rfl
  inOrder := Dated.inOrder_start
  log := rfl
  once := List.nodup_nil
  called := by simp
  answered := by simp [Journal.delivered]
  answeredOnce := List.nodup_nil

/-! ### The actions keep it -/

@[simp] theorem events_cancel (fetcher : Fetcher) :
    fetcher.cancel.traffic.events = fetcher.traffic.events := by
  unfold cancel
  split <;> rfl

@[simp] theorem sent_cancel (fetcher : Fetcher) :
    fetcher.cancel.traffic.sent = fetcher.traffic.sent := by
  unfold cancel
  split <;> rfl

@[simp] theorem now_cancel (fetcher : Fetcher) :
    fetcher.cancel.traffic.now = fetcher.traffic.now := by
  unfold cancel
  split <;> rfl

theorem mem_waiting_cancel {fetcher : Fetcher} {c : Waiting}
    (hc : c ∈ fetcher.cancel.traffic.waiting) : c ∈ fetcher.traffic.waiting := by
  unfold cancel at hc
  split at hc
  · exact (List.mem_filter.1 hc).1
  · exact hc

theorem Phase.same {transport : Transport} {calls : List Waiting} {delivered : List HintEvent}
    {pending : Option Pending} {traffic traffic' : Traffic}
    (h : Phase transport calls delivered pending traffic)
    (hw : traffic'.waiting = traffic.waiting) (ha : traffic'.arriving = traffic.arriving) :
    Phase transport calls delivered pending traffic' := by
  cases h with
  | idle hw' ha' => exact .idle (hw.trans hw') (ha.trans ha')
  | waiting w p hw' ha' hp hg hc => exact .waiting w p (hw.trans hw') (ha.trans ha') hp hg hc
  | arriving a p hw' ha' hp hg hc hd =>
    exact .arriving a p (hw.trans hw') (ha.trans ha') hp hg hc hd

theorem Phase.live {transport : Transport} {calls : List Waiting} {delivered : List HintEvent}
    {pending : Option Pending} {traffic : Traffic}
    (h : Phase transport calls delivered pending traffic) :
    traffic.live.length ≤ 1 ∧
      ∀ generation ∈ traffic.live, ∃ p, pending = some p ∧ p.generation = generation := by
  cases h with
  | idle hw ha => simp [Traffic.live, hw, ha]
  | waiting w p hw ha hp hg _ => simp [Traffic.live, hw, ha, hp, hg]
  | arriving a p hw ha hp hg _ _ => simp [Traffic.live, hw, ha, hp, hg]

theorem Phase.cancel {transport : Transport} {calls : List Waiting} {delivered : List HintEvent}
    {fetcher : Fetcher} (h : Phase transport calls delivered fetcher.pending fetcher.traffic) :
    fetcher.cancel.traffic.waiting = [] ∧ fetcher.cancel.traffic.arriving = [] := by
  cases h with
  | idle hw ha =>
    unfold Fetcher.cancel
    split
    · simp [Traffic.stop, hw, ha]
    · exact ⟨hw, ha⟩
  | waiting w p hw ha hp hg _ => simp [Fetcher.cancel, hp, Traffic.stop, hw, ha, hg]
  | arriving a p hw ha hp hg _ _ => simp [Fetcher.cancel, hp, Traffic.stop, hw, ha, hg]

variable {transport : Transport} {journal : Journal}

theorem Orderly.cancel (h : Orderly transport journal) :
    Orderly transport { journal with fetcher := journal.fetcher.cancel } := by
  obtain ⟨hw, ha⟩ := h.phase.cancel
  have hdelivered : Journal.delivered { journal with fetcher := journal.fetcher.cancel } =
      journal.delivered := by simp [Journal.delivered]
  refine ⟨.idle hw ha, h.inOrder.moves (.dropped (by simp) (by simp) rfl), ?_, h.once, ?_, ?_, ?_⟩
  · simpa using h.log
  · simpa using h.called
  · rw [hdelivered]
    exact h.answered
  · rw [hdelivered]
    exact h.answeredOnce

theorem Orderly.reset (h : Orderly transport journal) :
    Orderly transport { journal with fetcher := journal.fetcher.reset } :=
  ⟨h.cancel.phase, h.cancel.inOrder.moves (.kept rfl rfl rfl), h.cancel.log, h.cancel.once,
    h.cancel.called, h.cancel.answered, h.cancel.answeredOnce⟩

/- A request that starts after the pending one was dropped is alone on its way. -/
theorem Orderly.start (h : Orderly transport journal) (service : HintService)
    (plugin : Plugin.Metadata) (key : HintKey) (slot : Plugin.Slot) (endpoint : Text) :
    Orderly transport
      { journal with
        fetcher := journal.fetcher.cancel.start service plugin key slot endpoint
        given := journal.given ++ [journal.fetcher.generation + 1] } := by
  have hc := h.cancel
  obtain ⟨hw, ha⟩ := h.phase.cancel
  have hfresh : journal.fetcher.generation + 1 ∉ journal.calls.map (·.generation) := by
    intro hmem
    obtain ⟨call, hcall, hg⟩ := List.mem_map.1 hmem
    have hle := h.called call hcall
    omega
  refine ⟨?_, h.inOrder.moves (.started _ rfl ?_ ?_ rfl), hc.log, h.once, ?_, hc.answered,
    hc.answeredOnce⟩
  · refine .waiting ⟨journal.fetcher.generation + 1,
      ⟨endpoint, key.protocol, key.value, key.separator⟩,
      journal.fetcher.traffic.now + service.debounce⟩
      ⟨journal.fetcher.generation + 1, key, plugin, slot⟩ ?_ ?_ ?_ rfl hfresh
    · simp [Fetcher.start, Traffic.launch, hw]
    · simpa [Fetcher.start, Traffic.launch] using ha
    · simp [Fetcher.start]
  · simp
  · simp [Fetcher.start]
  · intro call hcall
    have hle := h.called call hcall
    simp only [Fetcher.start, generation_cancel]
    omega

theorem Orderly.schedule (h : Orderly transport journal) {service : HintService}
    (ht : service.transport = some transport) (hb : service.background = true)
    (plugin : Plugin.Metadata) (key : HintKey) (slot : Plugin.Slot) :
    Orderly transport (journal.act service (.schedule plugin key slot)) := by
  cases he : plugin.endpoint? slot with
  | none => simpa [Journal.act, Journal.perform, Dated.step, Fetcher.schedule, ht, he] using h
  | some endpoint =>
    have hs := h.start service plugin key slot endpoint
    simpa [Journal.act, Journal.perform, Dated.step, Fetcher.schedule, ht, he, hb, Fetcher.start]
      using hs

theorem Orderly.take (h : Orderly transport journal) (service : HintService) :
    Orderly transport (journal.act service .take) := by
  cases he : journal.fetcher.traffic.events with
  | nil => simpa [Journal.act, Journal.perform, Dated.step, Fetcher.take, Traffic.take, he] using h
  | cons event rest =>
    have hact : journal.act service .take =
        { journal with
          fetcher :=
            { journal.fetcher with traffic := { journal.fetcher.traffic with events := rest } }
          taken := journal.taken ++ [event] } := by
      simp [Journal.act, Journal.perform, Dated.step, Fetcher.take, Traffic.take, he]
    have hdelivered : (journal.act service .take).delivered = journal.delivered := by
      simp [hact, Journal.delivered, he]
    have hphase := h.phase
    have hanswered := h.answered
    have honce := h.answeredOnce
    rw [← hdelivered] at hphase hanswered honce
    rw [hact] at hphase hanswered honce ⊢
    exact ⟨hphase.same rfl rfl, h.inOrder.moves (.kept rfl rfl rfl), h.log, h.once, h.called,
      hanswered, honce⟩

/- The answer to a request that is still on its way cannot have been taken. -/
theorem Orderly.idle_of_delivered (h : Orderly transport journal) {event : HintEvent}
    (he : event ∈ journal.delivered) {p : Pending} (hp : journal.fetcher.pending = some p)
    (hg : p.generation = event.generation) :
    journal.fetcher.traffic.waiting = [] ∧ journal.fetcher.traffic.arriving = [] := by
  cases h.phase with
  | idle hw ha => exact ⟨hw, ha⟩
  | waiting w p' _ _ hp' hg' hc =>
    cases hp.symm.trans hp'
    have hcalled := (h.answered event he).called
    rw [← hg, hg'] at hcalled
    exact absurd hcalled hc
  | arriving a p' _ _ hp' hg' _ hd =>
    cases hp.symm.trans hp'
    have hmem : event.generation ∈ journal.delivered.map (·.generation) :=
      List.mem_map.2 ⟨event, he, rfl⟩
    rw [← hg, hg'] at hmem
    exact absurd hmem hd

theorem Orderly.apply (h : Orderly transport journal) (service : HintService) {event : HintEvent}
    (he : event ∈ journal.taken) :
    Orderly transport { journal with fetcher := (journal.fetcher.apply service event).2 } := by
  by_cases hp : ∃ p, journal.fetcher.pending = some p ∧ p.generation = event.generation
  · obtain ⟨p, hp, hg⟩ := hp
    obtain ⟨hw, ha⟩ := h.idle_of_delivered (List.mem_append_left _ he) hp hg
    rw [apply_current hp hg]
    exact ⟨.idle hw ha, h.inOrder.moves (.dropped rfl rfl rfl), h.log, h.once, h.called, h.answered,
      h.answeredOnce⟩
  · rw [apply_of_ne (fun p hp' hg => hp ⟨p, hp', hg⟩)]
    exact h

/-! ### Time keeps it -/

theorem Orderly.dispatch (h : Orderly transport journal) (time : Nat) :
    Orderly transport
      { journal with
        fetcher :=
          { journal.fetcher with traffic := journal.fetcher.traffic.dispatch transport time }
        calls := journal.calls ++ journal.fetcher.traffic.dueBy time } := by
  by_cases hdue : journal.fetcher.traffic.dueBy time = []
  · rw [Traffic.dispatch_of_dueBy_nil transport hdue, hdue, List.append_nil]
    exact h
  · cases h.phase with
    | idle hw _ => simp [Traffic.dueBy, hw] at hdue
    | arriving _ _ hw _ _ _ _ _ => simp [Traffic.dueBy, hw] at hdue
    | waiting w p hw ha hp hg hc =>
      have hd : w.due ≤ time := by simpa [Traffic.dueBy, hw] using hdue
      have hdueBy : journal.fetcher.traffic.dueBy time = [w] := by simp [Traffic.dueBy, hw, hd]
      have hlength : journal.calls.length = journal.fetcher.traffic.sent.length := by
        simpa using congrArg List.length h.log
      rw [Traffic.dispatch_single transport hw ha hd, hdueBy]
      refine ⟨.arriving _ p rfl rfl hp hg ?_ ?_, h.inOrder.moves (.kept rfl rfl rfl), ?_, ?_, ?_, ?_,
        h.answeredOnce⟩
      · exact ⟨journal.calls.length, w, by simp, rfl, by rw [hlength]⟩
      · intro hmem
        obtain ⟨event, he, hge⟩ := List.mem_map.1 hmem
        have hcalled := (h.answered event he).called
        rw [hge] at hcalled
        exact hc hcalled
      · simp [h.log]
      · rw [List.map_append, List.nodup_append_comm]
        exact List.nodup_cons.2 ⟨hc, h.once⟩
      · intro call hcall
        rcases List.mem_append.1 hcall with hold | hnew
        · exact h.called call hold
        · rw [List.mem_singleton.1 hnew, ← hg]
          exact h.inOrder.pending_le p hp
      · intro event he
        exact (h.answered event he).append [w]

theorem Orderly.deliver (h : Orderly transport journal) (time : Nat) :
    Orderly transport
      { journal with
        fetcher := { journal.fetcher with traffic := journal.fetcher.traffic.deliver time } } := by
  by_cases hlate : ∀ a ∈ journal.fetcher.traffic.arriving, time < a.due
  · rw [Traffic.deliver_of_late hlate]
    exact h
  · cases h.phase with
    | idle _ ha => simp [ha] at hlate
    | waiting _ _ _ ha _ _ _ => simp [ha] at hlate
    | arriving a p hw ha hp hg hc hd =>
      have hdue : a.due ≤ time := by simpa [ha] using hlate
      rw [Traffic.deliver_single ha hdue]
      refine ⟨.idle hw rfl, h.inOrder.moves (.kept rfl rfl rfl), h.log, h.once, h.called, ?_, ?_⟩
      · intro event he
        simp only [Journal.delivered, ← List.append_assoc] at he
        rcases List.mem_append.1 he with hold | hnew
        · exact h.answered event hold
        · rw [List.mem_singleton.1 hnew]
          exact hc
      · simp only [Journal.delivered, ← List.append_assoc]
        rw [List.map_append, List.nodup_append_comm]
        exact List.nodup_cons.2 ⟨hd, h.answeredOnce⟩

theorem Orderly.settle (h : Orderly transport journal) {service : HintService}
    (ht : service.transport = some transport) : Orderly transport (journal.settle service) := by
  have hsettled := (h.dispatch journal.fetcher.traffic.now).deliver journal.fetcher.traffic.now
  simpa [Journal.settle, Journal.perform, Dated.step, Fetcher.settle, HintService.run, ht,
    Traffic.settle] using hsettled

/- Letting time pass is to move the clock and then to settle. -/
theorem act_advance {service : HintService} (ht : service.transport = some transport)
    (journal : Journal) (ms : Nat) :
    journal.act service (.advance ms) = (journal.later ms).settle service := by
  have hmax : max journal.fetcher.traffic.now (journal.fetcher.traffic.now + ms) =
      journal.fetcher.traffic.now + ms := Nat.max_eq_right (Nat.le_add_right _ _)
  simp only [Journal.act, Journal.settle, Journal.perform, Dated.step, Journal.later, Fetcher.advance,
    Fetcher.settle, HintService.run, ht, Traffic.advanceTo, hmax]
  rfl

theorem Orderly.advance (h : Orderly transport journal) {service : HintService}
    (ht : service.transport = some transport) (ms : Nat) :
    Orderly transport (journal.act service (.advance ms)) := by
  rw [act_advance ht]
  refine Orderly.settle ?_ ht
  exact ⟨h.phase.same rfl rfl, h.inOrder.moves (.kept rfl rfl rfl), h.log, h.once, h.called,
    h.answered, h.answeredOnce⟩

/-! ### A whole run keeps it -/

theorem Orderly.step (h : Orderly transport journal) {service : HintService}
    (ht : service.transport = some transport) (hb : service.background = true) (action : Action) :
    Orderly transport (journal.step service action) := by
  refine Orderly.settle ?_ ht
  cases action with
  | schedule plugin key slot => exact h.schedule ht hb plugin key slot
  | cancel => exact h.cancel
  | reset => exact h.reset
  | advance ms => exact h.advance ht ms
  | take => exact h.take service
  | apply index =>
    simp only [Journal.act]
    split
    · next event he => exact h.apply service (List.mem_of_getElem? he)
    · exact h

theorem Orderly.run (h : Orderly transport journal) {service : HintService}
    (ht : service.transport = some transport) (hb : service.background = true)
    (actions : List Action) : Orderly transport (journal.run service actions) := by
  induction actions generalizing journal with
  | nil => exact h
  | cons action actions ih => exact ih (h.step ht hb action)

end Fetcher

end RuleHints
