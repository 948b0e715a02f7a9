import RuleHints.Proofs.Remote.Runs

/-!
# What replaces a pending request

Runs of a fetcher in which events of any kind are applied at any time. A generation is never given
twice, so a request that is no longer pending has passed for good. Scheduling a request replaces the
pending one, also where requests cannot run in the background. If the plugin has no endpoint, there
is nothing to schedule: the pending request stays, and its answer still makes the session.
-/

namespace RuleHints.Fetcher

/-! ### Requests that have passed -/

namespace Dated

/-- The request of a generation that was reached is not the pending one. -/
structure Passed (dated : Dated) (generation : Nat) : Prop where
  reached : generation ≤ dated.fetcher.generation
  replaced : ∀ request ∈ dated.fetcher.pending, request.generation ≠ generation

theorem Passed.step {dated : Dated} {generation : Nat} (h : dated.Passed generation)
    (service : HintService) (operation : Operation) :
    (dated.step service operation).Passed generation := by
  have hreached := h.reached
  cases moves_step service dated operation with
  | kept hp hg _ => exact ⟨hg ▸ hreached, hp ▸ h.replaced⟩
  | dropped hp hg _ => exact ⟨hg ▸ hreached, by simp [hp]⟩
  | started request hp hfresh hg _ =>
    -- The new request is one generation past all that were reached.
    refine ⟨by omega, ?_⟩
    intro other hother
    rw [hp] at hother
    cases hother
    omega

theorem Passed.run {dated : Dated} {generation : Nat} (h : dated.Passed generation)
    (service : HintService) (operations : List Operation) :
    (dated.run service operations).Passed generation := by
  induction operations generalizing dated with
  | nil => exact h
  | cons operation operations ih => exact ih (h.step service operation)

theorem pending_schedule {service : HintService} {transport : Transport}
    (ht : service.transport = some transport) {plugin : Plugin.Metadata} {slot : Plugin.Slot}
    {endpoint : Text} (he : plugin.endpoint? slot = some endpoint) (dated : Dated)
    (background : Bool) (key : HintKey) :
    ∀ request ∈ (dated.step service (.schedule background plugin key slot)).fetcher.pending,
      request.generation = dated.fetcher.generation + 1 := by
  intro request hrequest
  simp only [step, schedule, ht, he] at hrequest
  cases background with
  | true =>
    cases hrequest
    simp
  | false => simp at hrequest

/- The next generation is higher than any that was given, so a request that starts replaces all. -/
theorem InOrder.passed_schedule {dated : Dated} (h : dated.InOrder) {service : HintService}
    {transport : Transport} (ht : service.transport = some transport) {plugin : Plugin.Metadata}
    {slot : Plugin.Slot}
    (hreplaced : (plugin.endpoint? slot).isSome ∨ dated.fetcher.pending = none)
    (background : Bool) (key : HintKey) {generation : Nat} (hgeneration : generation ∈ dated.given) :
    (dated.step service (.schedule background plugin key slot)).Passed generation := by
  have hle := h.given generation hgeneration
  have hmoves := moves_schedule service dated background plugin key slot
  refine ⟨Nat.le_trans hle hmoves.generation_le, ?_⟩
  intro request hrequest
  cases he : plugin.endpoint? slot with
  | none =>
    have hp : dated.fetcher.pending = none := by simpa [he] using hreplaced
    simp [Dated.step, schedule, he, hp] at hrequest
  | some endpoint =>
    have hnew := pending_schedule ht he dated background key request hrequest
    omega

end Dated

/-! ### Late events -/

/- An answer that cannot be used leaves no list, and one without hints leaves a list that is empty:
one of the two is not the session that was there. -/
theorem exists_answered_ne (service : HintService) (pending : Pending) (session : Session) :
    ∃ outcome, answered service pending outcome ≠ session := by
  by_cases hkey : session.key = none
  · refine ⟨.ok (.array []), fun heq => ?_⟩
    have hsome : (answered service pending (.ok (.array []))).key = some pending.key := rfl
    rw [heq, hkey] at hsome
    cases hsome
  · refine ⟨.error .cancelled, fun heq => hkey ?_⟩
    rw [← heq]
    rfl

/-- Once a request is scheduled of a plugin that has an endpoint, no event of an earlier request is
ever applied. Of a plugin that has none, nothing is scheduled, and the pending request stays: its event
makes the session. -/
theorem earlier_requests_replaced_or_kept (service : HintService) (transport : Transport)
    (ht : service.transport = some transport) (before : List Operation) (background : Bool)
    (plugin : Plugin.Metadata) (key : HintKey) (slot : Plugin.Slot) :
    let earlier := Dated.run service {} before
    let scheduled := earlier.step service (.schedule background plugin key slot)
    ((plugin.endpoint? slot).isSome ∨ earlier.fetcher.pending = none →
      ∀ later : List Operation, ∀ generation ∈ earlier.given, ∀ outcome,
        let fetcher := (scheduled.run service later).fetcher
        fetcher.apply service ⟨generation, outcome⟩ = (false, fetcher)) ∧
    (plugin.endpoint? slot = none → ∀ pending, earlier.fetcher.pending = some pending →
      pending.generation ∈ earlier.given ∧
        (∀ outcome, (scheduled.fetcher.apply service ⟨pending.generation, outcome⟩).2.session =
          answered service pending outcome) ∧
        ∃ outcome, (scheduled.fetcher.apply service ⟨pending.generation, outcome⟩).2.session ≠
          scheduled.fetcher.session) := by
  intro earlier scheduled
  have inOrder : earlier.InOrder := Dated.inOrder_start.run service before
  constructor
  · intro hreplaced later generation hgeneration outcome fetcher
    have passed := (inOrder.passed_schedule ht hreplaced background key hgeneration).run service later
    exact apply_of_ne passed.replaced
  · intro he pending hp
    have hscheduled : scheduled.fetcher = earlier.fetcher := by
      simp [scheduled, Dated.step, schedule, he]
    have hsession : ∀ outcome,
        (scheduled.fetcher.apply service ⟨pending.generation, outcome⟩).2.session =
          answered service pending outcome := by
      intro outcome
      rw [hscheduled, apply_current hp rfl]
    obtain ⟨outcome, hne⟩ := exists_answered_ne service pending scheduled.fetcher.session
    exact ⟨inOrder.pending pending hp, hsession, outcome, (hsession outcome).symm ▸ hne⟩

/- Where requests cannot run in the background, the second request drops the first one all the same.
A plugin without an endpoint leaves it pending. -/
theorem inspect_replaced_or_kept :
    let transport : Transport := ⟨fun _ _ => { outcome := .ok (.array [.string "abc"]) }⟩
    let service : HintService := { HintService.ofSettings {} with transport := some transport }
    let inspect : Plugin.Metadata := { moduleName := "whistle.inspect", hintUrl := some "hints" }
    let quiet : Plugin.Metadata := { moduleName := "whistle.quiet" }
    let earlier := Dated.run service {} [.schedule true inspect ⟨"inspect", "a", none⟩ .value]
    let replaced := earlier.step service (.schedule false inspect ⟨"inspect", "ab", none⟩ .value)
    let kept := earlier.step service (.schedule true quiet ⟨"quiet", "b", none⟩ .value)
    earlier.given = [1] ∧ earlier.fetcher.pending = some ⟨1, ⟨"inspect", "a", none⟩, inspect, .value⟩ ∧
      (∀ later outcome, ((replaced.run service later).fetcher.apply service ⟨1, outcome⟩).1 = false) ∧
      ∃ outcome, (kept.fetcher.apply service ⟨1, outcome⟩).2.session ≠ kept.fetcher.session := by
  intro transport service inspect quiet earlier replaced kept
  have hgiven : earlier.given = [1] := by decide
  have hp : earlier.fetcher.pending = some ⟨1, ⟨"inspect", "a", none⟩, inspect, .value⟩ := by decide
  have hreplaced := (earlier_requests_replaced_or_kept service transport rfl
    [.schedule true inspect ⟨"inspect", "a", none⟩ .value] false inspect ⟨"inspect", "ab", none⟩
    .value).1
  have hkept := (earlier_requests_replaced_or_kept service transport rfl
    [.schedule true inspect ⟨"inspect", "a", none⟩ .value] true quiet ⟨"quiet", "b", none⟩ .value).2
  refine ⟨hgiven, hp, ?_, (hkept (by decide) _ hp).2.2⟩
  intro later outcome
  have happly := hreplaced (.inl (by decide)) later 1 (hgiven ▸ List.mem_singleton_self 1) outcome
  exact congrArg Prod.fst happly

/- The second call asks for hints of another plugin and gives no generation; the answer to the first
one comes after it and is applied. -/
theorem answer_applied_after_empty_schedule :
    let transport : Transport := ⟨fun _ _ => { outcome := .ok (.array [.string "abc"]) }⟩
    let service : HintService := { HintService.ofSettings {} with transport := some transport }
    let inspect : Plugin.Metadata := { moduleName := "whistle.inspect", hintUrl := some "hints" }
    let quiet : Plugin.Metadata := { moduleName := "whistle.quiet" }
    let earlier := Dated.run service {}
      [.schedule true inspect ⟨"inspect", "a", none⟩ .value, .advance 120, .take]
    let scheduled := earlier.fetcher.schedule service quiet ⟨"quiet", "b", none⟩ .value
    let applied := scheduled.2.apply service ⟨1, .ok (.array [.string "abc"])⟩
    earlier.given = [1] ∧ scheduled.1 = none ∧ applied.1 = true ∧
      scheduled.2.session.key = none ∧
      applied.2.session.key = some ⟨"inspect", "a", none⟩ := by
  decide

end RuleHints.Fetcher
