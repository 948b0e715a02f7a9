import RuleHints.Proofs.Remote.Flight

/-!
# Requests are debounced

A request is sent exactly if the fetcher is left alone until the request is due: nothing drops it and
no other request is scheduled. So of a burst of requests only the last one is sent.
-/

namespace RuleHints.Fetcher

variable {service : HintService} {transport : Transport}

namespace Journal

abbrev now (journal : Journal) : Nat := journal.fetcher.traffic.now

abbrev waiting (journal : Journal) : List Waiting := journal.fetcher.traffic.waiting

/-- The requests that wait to be sent or were sent. -/
def known (journal : Journal) : List Waiting := journal.waiting ++ journal.calls

theorem traffic_settle (ht : service.transport = some transport) (journal : Journal) :
    (journal.settle service).fetcher.traffic = journal.fetcher.traffic.settle transport := by
  simp [settle, perform, Dated.step, Fetcher.settle, HintService.run, ht]

theorem now_settle (ht : service.transport = some transport) (journal : Journal) :
    (journal.settle service).now = journal.now := by
  rw [now, traffic_settle ht, Traffic.now_settle]

theorem waiting_settle (ht : service.transport = some transport) (journal : Journal) :
    (journal.settle service).waiting = journal.waiting.filter fun w => !(w.due ≤ journal.now) := by
  rw [waiting, traffic_settle ht, Traffic.waiting_settle]

theorem calls_settle (journal : Journal) :
    (journal.settle service).calls =
      journal.calls ++ journal.waiting.filter (·.due ≤ journal.now) := rfl

theorem calls_settle_idle {journal : Journal} (hw : journal.waiting = []) :
    (journal.settle service).calls = journal.calls := by
  simp [calls_settle, hw]

end Journal

/-! ### What was never scheduled is never sent -/

theorem mem_known_settle (ht : service.transport = some transport) {journal : Journal} {c : Waiting}
    (hc : c ∈ (journal.settle service).known) : c ∈ journal.known := by
  simp only [Journal.known, Journal.waiting_settle ht, Journal.calls_settle, List.mem_append,
    List.mem_filter] at hc ⊢
  rcases hc with ⟨hw, _⟩ | hcall | ⟨hw, _⟩
  · exact Or.inl hw
  · exact Or.inr hcall
  · exact Or.inl hw

theorem act_schedule (ht : service.transport = some transport) (hb : service.background = true)
    (journal : Journal) {plugin : Plugin.Metadata} {slot : Plugin.Slot} {endpoint : Text}
    (he : plugin.endpoint? slot = some endpoint) (key : HintKey) :
    journal.act service (.schedule plugin key slot) =
      { journal with
        fetcher := journal.fetcher.cancel.start service plugin key slot endpoint
        given := journal.given ++ [journal.fetcher.generation + 1] } := by
  simp [Journal.act, Journal.perform, Dated.step, Fetcher.schedule, ht, he, hb, Fetcher.start]

/-- Nothing changes of what waits, of the clock, and of what was sent and given. -/
structure SameQueue (journal journal' : Journal) : Prop where
  waiting : journal'.waiting = journal.waiting
  now : journal'.now = journal.now
  calls : journal'.calls = journal.calls
  given : journal'.given = journal.given

theorem take_sameQueue (journal : Journal) : SameQueue journal (journal.act service .take) := by
  cases he : journal.fetcher.traffic.events with
  | nil | cons =>
    constructor <;>
      simp [Journal.act, Journal.perform, Dated.step, Fetcher.take, Traffic.take, he]

theorem apply_sameQueue (journal : Journal) (index : Nat) :
    SameQueue journal (journal.act service (.apply index)) := by
  simp only [Journal.act]
  split
  · simp only [Journal.perform, Dated.step, Fetcher.apply]
    split
    · split <;> exact ⟨rfl, rfl, rfl, rfl⟩
    · exact ⟨rfl, rfl, rfl, rfl⟩
  · exact ⟨rfl, rfl, rfl, rfl⟩

/- Which actions change the queue. -/
theorem act_cases (ht : service.transport = some transport) (hb : service.background = true)
    (journal : Journal) (action : Action) :
    (∃ plugin key slot endpoint, action = .schedule plugin key slot ∧
        plugin.endpoint? slot = some endpoint ∧
        journal.act service action =
          { journal with
            fetcher := journal.fetcher.cancel.start service plugin key slot endpoint
            given := journal.given ++ [journal.fetcher.generation + 1] }) ∨
      ((action = .cancel ∨ action = .reset) ∧
        SameQueue { journal with fetcher := journal.fetcher.cancel }
          (journal.act service action)) ∨
      (∃ ms, action = .advance ms) ∨
      action ≠ .cancel ∧ action ≠ .reset ∧ SameQueue journal (journal.act service action) := by
  cases action with
  | schedule plugin key slot =>
    cases he : plugin.endpoint? slot with
    | some endpoint =>
      exact Or.inl ⟨plugin, key, slot, endpoint, rfl, he, act_schedule ht hb journal he key⟩
    | none =>
      refine Or.inr (Or.inr (Or.inr ⟨by simp, by simp, ?_⟩))
      constructor <;> simp [Journal.act, Journal.perform, Dated.step, Fetcher.schedule, he]
  | cancel => exact Or.inr (Or.inl ⟨Or.inl rfl, ⟨rfl, rfl, rfl, rfl⟩⟩)
  | reset => exact Or.inr (Or.inl ⟨Or.inr rfl, ⟨rfl, rfl, rfl, rfl⟩⟩)
  | advance ms => exact Or.inr (Or.inr (Or.inl ⟨ms, rfl⟩))
  | take => exact Or.inr (Or.inr (Or.inr ⟨by simp, by simp, take_sameQueue journal⟩))
  | apply index => exact Or.inr (Or.inr (Or.inr ⟨by simp, by simp, apply_sameQueue journal index⟩))

/- Only a request that starts adds to what waits or was sent, and its generation is a new one. -/
theorem known_act (ht : service.transport = some transport) (hb : service.background = true)
    (journal : Journal) (action : Action) :
    ∀ c ∈ (journal.act service action).known,
      c ∈ journal.known ∨ journal.fetcher.generation < c.generation := by
  rcases act_cases ht hb journal action with
    ⟨plugin, key, slot, endpoint, _, _, hact⟩ | ⟨_, same⟩ | ⟨ms, rfl⟩ | ⟨_, _, same⟩
  · rw [hact]
    intro c hc
    simp only [Journal.known, Journal.waiting, Fetcher.start, Traffic.launch, List.mem_append,
      List.mem_singleton, generation_cancel] at hc ⊢
    rcases hc with (hw | rfl) | hcall
    · exact Or.inl (Or.inl (mem_waiting_cancel hw))
    · exact Or.inr (Nat.lt_succ_self _)
    · exact Or.inl (Or.inr hcall)
  · rw [Journal.known, same.waiting, same.calls]
    intro c hc
    rcases List.mem_append.1 hc with hw | hcall
    · exact Or.inl (List.mem_append_left _ (mem_waiting_cancel hw))
    · exact Or.inl (List.mem_append_right _ hcall)
  · rw [act_advance ht]
    intro c hc
    have hlater : c ∈ (journal.later ms).known := mem_known_settle ht hc
    exact Or.inl hlater
  · rw [Journal.known, same.waiting, same.calls]
    exact fun c hc => Or.inl hc

theorem known_run (ht : service.transport = some transport) (hb : service.background = true)
    (journal : Journal) (actions : List Action) :
    ∀ c ∈ (journal.run service actions).known,
      c ∈ journal.known ∨ journal.fetcher.generation < c.generation := by
  induction actions generalizing journal with
  | nil => exact fun c hc => Or.inl hc
  | cons action actions ih =>
    intro c hc
    have hle := (journal.act_moves service action).generation_le
    rcases ih (journal.step service action) c hc with hstep | hlt
    · exact known_act ht hb journal action c (mem_known_settle ht hstep)
    · exact Or.inr (Nat.lt_of_le_of_lt hle hlt)

/-! ### Journals grow -/

theorem calls_act (service : HintService) (journal : Journal) (action : Action) :
    journal.calls <+: (journal.act service action).calls := by
  cases action with
  | schedule | cancel | reset | take => exact List.prefix_rfl
  | advance ms => exact List.prefix_append ..
  | apply index =>
    simp only [Journal.act]
    split <;> exact List.prefix_rfl

theorem grows_step (service : HintService) (journal : Journal) (action : Action) :
    journal.given <+: (journal.step service action).given ∧
      journal.calls <+: (journal.step service action).calls := by
  have settled := (journal.act service action).settle_moves service
  exact ⟨(journal.act_moves service action).given_grows.trans settled.given_grows,
    (calls_act service journal action).trans (List.prefix_append ..)⟩

theorem grows_run (service : HintService) (journal : Journal) (actions : List Action) :
    journal.given <+: (journal.run service actions).given ∧
      journal.calls <+: (journal.run service actions).calls := by
  induction actions generalizing journal with
  | nil => exact ⟨List.prefix_rfl, List.prefix_rfl⟩
  | cons action actions ih =>
    obtain ⟨hgiven, hcalls⟩ := grows_step service journal action
    obtain ⟨hgiven', hcalls'⟩ := ih (journal.step service action)
    exact ⟨hgiven.trans hgiven', hcalls.trans hcalls'⟩

/-- The actions neither drop the pending request nor start another one. -/
def LeftAlone (service : HintService) (journal : Journal) (actions : List Action) : Prop :=
  .cancel ∉ actions ∧ .reset ∉ actions ∧ (journal.run service actions).given = journal.given

theorem leftAlone_cons {journal : Journal} {action : Action} {actions : List Action} :
    LeftAlone service journal (action :: actions) ↔
      action ≠ .cancel ∧ action ≠ .reset ∧ (journal.step service action).given = journal.given ∧
        LeftAlone service (journal.step service action) actions := by
  simp only [LeftAlone, List.mem_cons, not_or, ne_eq, eq_comm (a := action)]
  constructor
  · rintro ⟨⟨hc, hcs⟩, ⟨hr, hrs⟩, hgiven⟩
    have hfirst := (grows_step service journal action).1
    have hrest := (grows_run service (journal.step service action) actions).1
    rw [Journal.run_cons] at hgiven
    rw [hgiven] at hrest
    have hstep := hfirst.eq_of_length_le hrest.length_le
    exact ⟨hc, hr, hstep.symm, hcs, hrs, hgiven.trans hstep⟩
  · rintro ⟨hc, hr, hstep, hcs, hrs, hgiven⟩
    exact ⟨⟨hc, hcs⟩, ⟨hr, hrs⟩, hgiven.trans hstep⟩

/-! ### A request that waits -/

/-- Only this request waits, and it is not due yet. -/
def Waits (journal : Journal) (w : Waiting) : Prop :=
  journal.waiting = [w] ∧ journal.now < w.due

theorem Orderly.of_waiting {journal : Journal} (h : Orderly transport journal) {w : Waiting}
    (hw : journal.waiting = [w]) :
    w ∉ journal.calls ∧ w.generation ≤ journal.fetcher.generation := by
  cases h.phase with
  | idle hw' _ => cases hw.symm.trans hw'
  | arriving _ _ hw' _ _ _ _ _ => cases hw.symm.trans hw'
  | waiting w' p hw' _ hp hg hc =>
    cases hw.symm.trans hw'
    refine ⟨fun hmem => hc (List.mem_map.2 ⟨w, hmem, rfl⟩), ?_⟩
    rw [← hg]
    exact h.inOrder.pending_le p hp

theorem Waits.settle (ht : service.transport = some transport) {journal : Journal} {w : Waiting}
    (h : Waits journal w) :
    Waits (journal.settle service) w ∧ (journal.settle service).calls = journal.calls := by
  obtain ⟨hw, hlt⟩ := h
  have hnot : ¬ w.due ≤ journal.now := Nat.not_le.2 hlt
  refine ⟨⟨?_, ?_⟩, ?_⟩
  · simp [Journal.waiting_settle ht, hw, hnot]
  · rw [Journal.now_settle ht]
    exact hlt
  · simp [Journal.calls_settle, hw, hnot]

theorem settle_due (ht : service.transport = some transport) {journal : Journal} {w : Waiting}
    (hw : journal.waiting = [w]) (hd : w.due ≤ journal.now) :
    (journal.settle service).waiting = [] ∧
      (journal.settle service).calls = journal.calls ++ [w] := by
  simp [Journal.waiting_settle ht, Journal.calls_settle, hw, hd]

/-- What an action does to a request that waits. -/
inductive Fate (service : HintService) (journal : Journal) (w : Waiting) (action : Action) : Prop where
  | waits (hc : action ≠ .cancel) (hr : action ≠ .reset)
      (given : (journal.step service action).given = journal.given)
      (waits : Waits (journal.step service action) w)
  | sent (hc : action ≠ .cancel) (hr : action ≠ .reset)
      (given : (journal.step service action).given = journal.given)
      (due : w.due ≤ (journal.step service action).now)
      (calls : (journal.step service action).calls = journal.calls ++ [w])
  | dropped (loud : action = .cancel ∨ action = .reset ∨
        (journal.step service action).given ≠ journal.given)
      (known : w ∉ (journal.step service action).known)

theorem Waits.advance (ht : service.transport = some transport) {journal : Journal} {w : Waiting}
    (hw : Waits journal w) (ms : Nat) :
    if w.due ≤ journal.now + ms then
      w.due ≤ (journal.step service (.advance ms)).now ∧
        (journal.step service (.advance ms)).calls = journal.calls ++ [w]
    else
      Waits (journal.step service (.advance ms)) w ∧
        (journal.step service (.advance ms)).calls = journal.calls := by
  have hwaiting : (journal.later ms).waiting = [w] := hw.1
  have hnow : (journal.later ms).now = journal.now + ms := rfl
  rw [Journal.step, act_advance ht]
  split
  · next hd =>
    obtain ⟨hnone, hcalls⟩ := settle_due ht hwaiting (hnow ▸ hd)
    rw [Journal.calls_settle_idle hnone, hcalls, Journal.now_settle ht, Journal.now_settle ht]
    exact ⟨hd, rfl⟩
  · next hd =>
    have hlater : Waits (journal.later ms) w := ⟨hwaiting, by rw [hnow]; omega⟩
    obtain ⟨hsettled, hcalls⟩ := hlater.settle ht
    obtain ⟨hagain, hcalls'⟩ := hsettled.settle ht
    exact ⟨hagain, hcalls'.trans hcalls⟩

theorem fate_of_waits (ht : service.transport = some transport) (hb : service.background = true)
    {journal : Journal} (h : Orderly transport journal) {w : Waiting} (hw : Waits journal w)
    (action : Action) : Fate service journal w action := by
  obtain ⟨hcalls, hle⟩ := h.of_waiting hw.1
  rcases act_cases ht hb journal action with
    ⟨plugin, key, slot, endpoint, _, _, hact⟩ | ⟨hloud, same⟩ | ⟨ms, rfl⟩ | ⟨hc, hr, same⟩
  · refine .dropped (Or.inr (Or.inr ?_)) ?_
    · simp [Journal.step, Journal.settle, Journal.perform, Dated.step, hact]
    · -- Another request starts, and it has a greater generation.
      intro hmem
      have hknown := mem_known_settle ht hmem
      rw [hact] at hknown
      rcases List.mem_append.1 hknown with hwaiting | hcall
      · simp only [Journal.waiting, Fetcher.start, Traffic.launch, h.phase.cancel.1,
          List.nil_append, List.mem_singleton, generation_cancel] at hwaiting
        rw [hwaiting] at hle
        exact absurd hle (Nat.not_succ_le_self _)
      · exact hcalls hcall
  · refine .dropped ?_ ?_
    · rcases hloud with hc | hr
      · exact Or.inl hc
      · exact Or.inr (Or.inl hr)
    · intro hmem
      have hknown := mem_known_settle ht hmem
      rw [Journal.known, same.waiting, same.calls] at hknown
      rcases List.mem_append.1 hknown with hwaiting | hcall
      · rw [Journal.waiting, h.phase.cancel.1] at hwaiting
        cases hwaiting
      · exact hcalls hcall
  · have hadvance := hw.advance ht ms
    split at hadvance
    · exact .sent (by simp) (by simp) rfl hadvance.1 hadvance.2
    · exact .waits (by simp) (by simp) rfl hadvance.1
  · have hkept : Waits (journal.act service action) w :=
      ⟨same.waiting.trans hw.1, same.now ▸ hw.2⟩
    exact .waits hc hr same.given (hkept.settle ht).1

/-- The fetcher is left alone for so long that a request which is due then gets sent. -/
def Reaches (service : HintService) (journal : Journal) (actions : List Action) (due : Nat) : Prop :=
  ∃ quiet rest, actions = quiet ++ rest ∧ LeftAlone service journal quiet ∧
    due ≤ (journal.run service quiet).now

theorem reaches_cons {journal : Journal} {action : Action} {actions : List Action} {due : Nat}
    (hlt : journal.now < due) :
    Reaches service journal (action :: actions) due ↔
      action ≠ .cancel ∧ action ≠ .reset ∧ (journal.step service action).given = journal.given ∧
        Reaches service (journal.step service action) actions due := by
  constructor
  · rintro ⟨quiet, rest, heq, hquiet, hdue⟩
    cases quiet with
    | nil => exact absurd hdue (Nat.not_le.2 hlt)
    | cons first quiet =>
      cases heq
      obtain ⟨hc, hr, hgiven, htail⟩ := leftAlone_cons.1 hquiet
      exact ⟨hc, hr, hgiven, quiet, rest, rfl, htail, hdue⟩
  · rintro ⟨hc, hr, hgiven, quiet, rest, heq, hquiet, hdue⟩
    exact ⟨action :: quiet, rest, by rw [heq, List.cons_append],
      leftAlone_cons.2 ⟨hc, hr, hgiven, hquiet⟩, hdue⟩

theorem reaches_now {journal : Journal} {due : Nat} (hdue : due ≤ journal.now)
    (actions : List Action) : Reaches service journal actions due :=
  ⟨[], actions, rfl, ⟨by simp, by simp, rfl⟩, hdue⟩

/- The induction is on the actions to come; as long as the request waits, one action decides its
fate or leaves it waiting. -/
theorem sent_iff_reaches (ht : service.transport = some transport)
    (hb : service.background = true) {journal : Journal} (h : Orderly transport journal)
    {w : Waiting} (hw : Waits journal w) (actions : List Action) :
    w ∈ (journal.run service actions).calls ↔ Reaches service journal actions w.due := by
  induction actions generalizing journal with
  | nil =>
    constructor
    · intro hmem
      exact absurd hmem (h.of_waiting hw.1).1
    · rintro ⟨quiet, rest, heq, _, hdue⟩
      obtain ⟨rfl, _⟩ := List.append_eq_nil_iff.1 heq.symm
      exact absurd hdue (Nat.not_le.2 hw.2)
  | cons action actions ih =>
    rw [reaches_cons hw.2, Journal.run_cons]
    cases fate_of_waits ht hb h hw action with
    | waits hc hr hgiven hwaits =>
      rw [ih (h.step ht hb action) hwaits]
      exact ⟨fun hreaches => ⟨hc, hr, hgiven, hreaches⟩, fun hreaches => hreaches.2.2.2⟩
    | sent hc hr hgiven hdue hcalls =>
      have hsent : w ∈ (journal.step service action).calls := by simp [hcalls]
      have hgrows := (grows_run service (journal.step service action) actions).2
      exact ⟨fun _ => ⟨hc, hr, hgiven, reaches_now hdue actions⟩, fun _ => hgrows.subset hsent⟩
    | dropped hloud hknown =>
      constructor
      · intro hmem
        have hgeneration := (journal.act_moves service action).generation_le
        have hle := (h.of_waiting hw.1).2
        rcases known_run ht hb (journal.step service action) actions w
          (List.mem_append_right _ hmem) with hold | hlt
        · exact absurd hold hknown
        · exact absurd (Nat.le_trans hle hgeneration) (Nat.not_le.2 hlt)
      · rintro ⟨hc, hr, hgiven, _⟩
        rcases hloud with hc' | hr' | hgiven'
        · exact absurd hc' hc
        · exact absurd hr' hr
        · exact absurd hgiven hgiven'

/-! ### Scheduling -/

/-- The request that a schedule starts. -/
def Journal.entry (service : HintService) (journal : Journal) (key : HintKey) (endpoint : Text) :
    Waiting where
  generation := journal.fetcher.generation + 1
  request := ⟨endpoint, key.protocol, key.value, key.separator⟩
  due := journal.now + service.debounce

theorem schedule_eq_some (ht : service.transport = some transport)
    (hb : service.background = true) {fetcher : Fetcher} {plugin : Plugin.Metadata}
    {key : HintKey} {slot : Plugin.Slot} {generation : Nat}
    (h : (fetcher.schedule service plugin key slot).1 = some generation) :
    generation = fetcher.generation + 1 ∧ ∃ endpoint, plugin.endpoint? slot = some endpoint := by
  cases he : plugin.endpoint? slot with
  | none => simp [Fetcher.schedule, ht, he] at h
  | some endpoint =>
    simp only [Fetcher.schedule, ht, he, hb, if_true, Fetcher.start, generation_cancel] at h
    cases h
    exact ⟨rfl, endpoint, rfl⟩

section Schedule

variable {journal : Journal} {plugin : Plugin.Metadata} {slot : Plugin.Slot} {endpoint : Text}

theorem act_schedule_queue (ht : service.transport = some transport)
    (hb : service.background = true) (h : Orderly transport journal)
    (he : plugin.endpoint? slot = some endpoint) (key : HintKey) :
    (journal.act service (.schedule plugin key slot)).waiting =
        [journal.entry service key endpoint] ∧
      (journal.act service (.schedule plugin key slot)).now = journal.now ∧
      (journal.act service (.schedule plugin key slot)).calls = journal.calls := by
  rw [act_schedule ht hb journal he key]
  refine ⟨?_, ?_, rfl⟩
  · simp [Journal.waiting, Fetcher.start, Traffic.launch, h.phase.cancel.1, Journal.entry]
  · simp [Journal.now, Fetcher.start, Traffic.launch]

/- Without a debounce the request is sent at once. -/
theorem step_schedule_now (ht : service.transport = some transport)
    (hb : service.background = true) (h : Orderly transport journal)
    (he : plugin.endpoint? slot = some endpoint) (key : HintKey) (hz : service.debounce = 0) :
    (journal.step service (.schedule plugin key slot)).waiting = [] ∧
      (journal.step service (.schedule plugin key slot)).calls =
        journal.calls ++ [journal.entry service key endpoint] := by
  obtain ⟨hwaiting, hnow, hcalls⟩ := act_schedule_queue ht hb h he key
  have hdue : (journal.entry service key endpoint).due ≤
      (journal.act service (.schedule plugin key slot)).now := by
    rw [hnow]
    simp [Journal.entry, hz]
  obtain ⟨hnone, hsent⟩ := settle_due ht hwaiting hdue
  exact ⟨hnone, by rw [Journal.step, hsent, hcalls]⟩

theorem step_schedule_waits (ht : service.transport = some transport)
    (hb : service.background = true) (h : Orderly transport journal)
    (he : plugin.endpoint? slot = some endpoint) (key : HintKey) (hpos : 0 < service.debounce) :
    Waits (journal.step service (.schedule plugin key slot))
        (journal.entry service key endpoint) ∧
      (journal.step service (.schedule plugin key slot)).calls = journal.calls := by
  obtain ⟨hwaiting, hnow, hcalls⟩ := act_schedule_queue ht hb h he key
  have hwaits : Waits (journal.act service (.schedule plugin key slot))
      (journal.entry service key endpoint) := by
    refine ⟨hwaiting, ?_⟩
    rw [hnow]
    exact Nat.lt_add_of_pos_right hpos
  obtain ⟨hsettled, hkept⟩ := hwaits.settle ht
  exact ⟨hsettled, hkept.trans hcalls⟩

theorem now_step_schedule (ht : service.transport = some transport)
    (hb : service.background = true) (h : Orderly transport journal)
    (he : plugin.endpoint? slot = some endpoint) (key : HintKey) :
    (journal.step service (.schedule plugin key slot)).now = journal.now := by
  rw [Journal.step, Journal.now_settle ht]
  exact (act_schedule_queue ht hb h he key).2.1

theorem scheduled_sent_iff (ht : service.transport = some transport)
    (hb : service.background = true) (h : Orderly transport journal)
    (he : plugin.endpoint? slot = some endpoint) (key : HintKey) (later : List Action) :
    journal.entry service key endpoint ∈
        ((journal.step service (.schedule plugin key slot)).run service later).calls ↔
      Reaches service (journal.step service (.schedule plugin key slot)) later
        (journal.now + service.debounce) := by
  rcases Nat.eq_zero_or_pos service.debounce with hz | hpos
  · obtain ⟨_, hcalls⟩ := step_schedule_now ht hb h he key hz
    have hgrows := (grows_run service (journal.step service (.schedule plugin key slot)) later).2
    refine ⟨fun _ => reaches_now ?_ later, fun _ => hgrows.subset ?_⟩
    · rw [now_step_schedule ht hb h he key, hz]
      exact Nat.le_refl _
    · simp [hcalls]
  · obtain ⟨hwaits, _⟩ := step_schedule_waits ht hb h he key hpos
    exact sent_iff_reaches ht hb (h.step ht hb _) hwaits later

/- A call under the generation of the request is this very request. -/
theorem eq_entry_of_called (ht : service.transport = some transport)
    (hb : service.background = true) (h : Orderly transport journal)
    (he : plugin.endpoint? slot = some endpoint) (key : HintKey) {later : List Action}
    {call : Waiting}
    (hcall : call ∈
      ((journal.step service (.schedule plugin key slot)).run service later).calls)
    (hg : call.generation = journal.fetcher.generation + 1) :
    call = journal.entry service key endpoint := by
  have hgeneration : (journal.step service (.schedule plugin key slot)).fetcher.generation =
      journal.fetcher.generation + 1 := by
    simp [Journal.step, Journal.settle, Journal.perform, Dated.step, Fetcher.settle,
      act_schedule ht hb journal he key, Fetcher.start]
  rcases known_run ht hb _ later call (List.mem_append_right _ hcall) with hknown | hlt
  · have hact := mem_known_settle ht hknown
    obtain ⟨hwaiting, _, hcalls⟩ := act_schedule_queue ht hb h he key
    rw [Journal.known, hwaiting, hcalls] at hact
    rcases List.mem_append.1 hact with hnew | hold
    · exact List.mem_singleton.1 hnew
    · have hle := h.called call hold
      omega
  · omega

end Schedule

/-! ### Bursts -/

/-- A request is scheduled, and then some time passes. -/
structure Keystroke where
  plugin : Plugin.Metadata
  key : HintKey
  slot : Plugin.Slot
  pause : Nat

def Keystroke.actions (stroke : Keystroke) : List Action :=
  [.schedule stroke.plugin stroke.key stroke.slot, .advance stroke.pause]

theorem calls_advance_idle (ht : service.transport = some transport) {journal : Journal}
    (hw : journal.waiting = []) (ms : Nat) :
    (journal.step service (.advance ms)).calls = journal.calls := by
  have hnone : ((journal.later ms).settle service).waiting = [] := by
    rw [Journal.waiting_settle ht]
    simp [show (journal.later ms).waiting = [] from hw]
  rw [Journal.step, act_advance ht, Journal.calls_settle_idle hnone]
  exact Journal.calls_settle_idle hw

theorem calls_keystroke (ht : service.transport = some transport)
    (hb : service.background = true) {journal : Journal} (h : Orderly transport journal)
    {stroke : Keystroke} {endpoint : Text}
    (he : stroke.plugin.endpoint? stroke.slot = some endpoint) :
    (journal.run service stroke.actions).calls =
      if service.debounce ≤ stroke.pause then
        journal.calls ++ [journal.entry service stroke.key endpoint]
      else journal.calls := by
  rw [Keystroke.actions, Journal.run_cons, Journal.run_cons, Journal.run_nil]
  rcases Nat.eq_zero_or_pos service.debounce with hz | hpos
  · obtain ⟨hnone, hcalls⟩ := step_schedule_now ht hb h he stroke.key hz
    rw [calls_advance_idle ht hnone, hcalls, if_pos (by omega)]
  · obtain ⟨hwaits, hcalls⟩ := step_schedule_waits ht hb h he stroke.key hpos
    have hadvance := hwaits.advance ht stroke.pause
    rw [now_step_schedule ht hb h he stroke.key, hcalls] at hadvance
    have hdue : (journal.entry service stroke.key endpoint).due ≤ journal.now + stroke.pause ↔
        service.debounce ≤ stroke.pause := Nat.add_le_add_iff_left
    by_cases hpause : service.debounce ≤ stroke.pause
    · rw [if_pos (hdue.2 hpause)] at hadvance
      rw [if_pos hpause]
      exact hadvance.2
    · rw [if_neg (fun hd => hpause (hdue.1 hd))] at hadvance
      rw [if_neg hpause]
      exact hadvance.2

theorem calls_burst (ht : service.transport = some transport) (hb : service.background = true)
    {journal : Journal} (h : Orderly transport journal) (burst : List Keystroke)
    (hburst : ∀ stroke ∈ burst,
      (stroke.plugin.endpoint? stroke.slot).isSome ∧ stroke.pause < service.debounce) :
    (journal.run service (burst.flatMap Keystroke.actions)).calls = journal.calls := by
  induction burst generalizing journal with
  | nil => rfl
  | cons stroke burst ih =>
    obtain ⟨hsome, hpause⟩ := hburst stroke List.mem_cons_self
    obtain ⟨endpoint, he⟩ := Option.isSome_iff_exists.1 hsome
    rw [List.flatMap_cons, Journal.run_append,
      ih (h.run ht hb stroke.actions) (fun other hother => hburst other (.tail _ hother)),
      calls_keystroke ht hb h he, if_neg (Nat.not_le.2 hpause)]

/-- One request on its way, and a pure debounce. After any run of a fetcher that can send, at most one
request is on its way and it is the pending one; the generations that were given ascend; no
generation is sent twice or answered twice, and an event brings the answer to the call of its
generation. A request that was given a generation is sent exactly if the fetcher is then left alone
until its debounce is over, and it asks its endpoint for its key. So of a burst of requests only the
last one is sent. -/
theorem requests_single_and_debounced (service : HintService) (transport : Transport)
    (ht : service.transport = some transport) (hb : service.background = true)
    (actions : List Action) :
    let journal := Journal.run service {} actions
    let traffic := journal.fetcher.traffic
    (traffic.live.length ≤ 1 ∧ ∀ generation ∈ traffic.live,
        ∃ p, journal.fetcher.pending = some p ∧ p.generation = generation) ∧
      journal.given.Pairwise (· < ·) ∧
      (journal.calls.map (·.request) = traffic.sent.reverse ∧
        (journal.calls.map (·.generation)).Nodup) ∧
      ((journal.delivered.map (·.generation)).Nodup ∧
        ∀ event ∈ journal.delivered, Answers transport journal.calls event) ∧
      (∀ before plugin key slot later generation,
        actions = before ++ .schedule plugin key slot :: later →
        let start := Journal.run service {} before
        (start.fetcher.schedule service plugin key slot).1 = some generation →
        ((∃ call ∈ journal.calls, call.generation = generation) ↔
            Reaches service (start.step service (.schedule plugin key slot)) later
              (start.now + service.debounce)) ∧
          ∀ call ∈ journal.calls, call.generation = generation →
            ∃ endpoint, plugin.endpoint? slot = some endpoint ∧
              call.request = ⟨endpoint, key.protocol, key.value, key.separator⟩) ∧
      ∀ (burst : List Keystroke) (last : Keystroke),
        (∀ stroke ∈ burst,
          (stroke.plugin.endpoint? stroke.slot).isSome ∧ stroke.pause < service.debounce) →
        (last.plugin.endpoint? last.slot).isSome → service.debounce ≤ last.pause →
        ∃ call endpoint, last.plugin.endpoint? last.slot = some endpoint ∧
          call.request = ⟨endpoint, last.key.protocol, last.key.value, last.key.separator⟩ ∧
          (Journal.run service {}
              (actions ++ (burst.flatMap Keystroke.actions ++ last.actions))).calls =
            journal.calls ++ [call] := by
  intro journal traffic
  have orderly : ∀ actions, Orderly transport (Journal.run service {} actions) :=
    fun actions => (orderly_start transport).run ht hb actions
  have h : Orderly transport journal := orderly actions
  refine ⟨h.phase.live, h.inOrder.ascending, ⟨h.log, h.once⟩, ⟨h.answeredOnce, h.answered⟩, ?_, ?_⟩
  · intro before plugin key slot later generation hactions start hgiven
    obtain ⟨hgeneration, endpoint, he⟩ := schedule_eq_some ht hb hgiven
    have hjournal : journal =
        (start.step service (.schedule plugin key slot)).run service later := by
      simp only [journal, hactions, Journal.run_append, Journal.run_cons]
      rfl
    have hentry : ∀ call ∈ journal.calls, call.generation = generation →
        call = start.entry service key endpoint := by
      intro call hcall hg
      rw [hjournal] at hcall
      exact eq_entry_of_called ht hb (orderly before) he key hcall (hg.trans hgeneration)
    constructor
    · rw [← scheduled_sent_iff ht hb (orderly before) he key later, ← hjournal]
      constructor
      · rintro ⟨call, hcall, hg⟩
        rw [← hentry call hcall hg]
        exact hcall
      · intro hsent
        exact ⟨_, hsent, hgeneration.symm⟩
    · intro call hcall hg
      rw [hentry call hcall hg]
      exact ⟨endpoint, he, rfl⟩
  · intro burst last hburst hsome hpause
    obtain ⟨endpoint, he⟩ := Option.isSome_iff_exists.1 hsome
    let typed := journal.run service (burst.flatMap Keystroke.actions)
    have htyped : Orderly transport typed := h.run ht hb _
    refine ⟨typed.entry service last.key endpoint, endpoint, he, rfl, ?_⟩
    rw [Journal.run_append, Journal.run_append, calls_keystroke ht hb htyped he, if_pos hpause,
      calls_burst ht hb h burst hburst]

/- Two requests within the debounce, and then a pause: the second one is sent. -/
theorem second_keystroke_sent :
    let transport : Transport := ⟨fun _ _ => { outcome := .ok (.array []) }⟩
    let service : HintService := { HintService.ofSettings {} with transport := some transport }
    let plugin : Plugin.Metadata := { moduleName := "whistle.inspect", hintUrl := some "hints" }
    let first : Keystroke := ⟨plugin, ⟨"inspect", "a", none⟩, .value, 100⟩
    let second : Keystroke := ⟨plugin, ⟨"inspect", "ab", none⟩, .value, 200⟩
    first.pause < service.debounce ∧ service.debounce ≤ second.pause ∧
      ∃ call, (Journal.run service {} (first.actions ++ second.actions)).calls = [call] ∧
        call.request.value = "ab" := by
  intro transport service plugin first second
  have hburst := (requests_single_and_debounced service transport rfl rfl []).2.2.2.2.2
  obtain ⟨call, endpoint, _, hrequest, hcalls⟩ :=
    hburst [first] second (by decide) (by decide) (by decide)
  exact ⟨by decide, by decide, call, hcalls, by rw [hrequest]⟩

end RuleHints.Fetcher
