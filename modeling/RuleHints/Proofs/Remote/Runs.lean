import Mathlib.Data.List.Basic
import RuleHints.Remote.Fetcher

/-!
# Runs of a fetcher

A fetcher does one operation after the other. What an operation can do to the pending request is said
once, in `Moves`: it is kept or dropped, or one of the next generation takes its place. So the
generations that were given ascend, and a pending request has one of them.
-/

namespace RuleHints.Fetcher

/-! ### Operations -/

/-- What can be done with a fetcher. Whether requests can run in the background may change from one
request to the next. -/
inductive Operation where
  | schedule (background : Bool) (plugin : Plugin.Metadata) (key : HintKey) (slot : Plugin.Slot)
  | cancel
  | reset
  | install (key : HintKey) (hints : HintSet)
  | changeSession (session : Session)
  | settle
  | advance (ms : Nat)
  | take
  | await (patience : Nat)
  | apply (event : HintEvent)

/-- A fetcher and the generations that its requests were given. -/
structure Dated where
  fetcher : Fetcher := {}
  given : List Nat := []

namespace Dated

def step (service : HintService) (dated : Dated) : Operation → Dated
  | .schedule background plugin key slot =>
    let (generation, fetcher) :=
      dated.fetcher.schedule { service with background } plugin key slot
    ⟨fetcher, dated.given ++ generation.toList⟩
  | .cancel => { dated with fetcher := dated.fetcher.cancel }
  | .reset => { dated with fetcher := dated.fetcher.reset }
  | .install key hints => { dated with fetcher := dated.fetcher.install key hints }
  | .changeSession session => { dated with fetcher := { dated.fetcher with session } }
  | .settle => { dated with fetcher := dated.fetcher.settle service }
  | .advance ms => { dated with fetcher := dated.fetcher.advance service ms }
  | .take => { dated with fetcher := dated.fetcher.take.2 }
  | .await patience => { dated with fetcher := (dated.fetcher.await service patience).2 }
  | .apply event => { dated with fetcher := (dated.fetcher.apply service event).2 }

def run (service : HintService) (dated : Dated) (operations : List Operation) : Dated :=
  operations.foldl (step service) dated

/-! ### What an operation can do to the pending request -/

/-- The pending request is kept or dropped, or one of the next generation takes its place. -/
inductive Moves (dated next : Dated) : Prop where
  | kept (pending : next.fetcher.pending = dated.fetcher.pending)
      (generation : next.fetcher.generation = dated.fetcher.generation)
      (given : next.given = dated.given)
  | dropped (pending : next.fetcher.pending = none)
      (generation : next.fetcher.generation = dated.fetcher.generation)
      (given : next.given = dated.given)
  | started (request : Pending) (pending : next.fetcher.pending = some request)
      (fresh : request.generation = dated.fetcher.generation + 1)
      (generation : next.fetcher.generation = dated.fetcher.generation + 1)
      (given : next.given = dated.given ++ [dated.fetcher.generation + 1])

theorem Moves.generation_le {dated next : Dated} (h : Moves dated next) :
    dated.fetcher.generation ≤ next.fetcher.generation := by
  cases h with
  | kept _ hg _ | dropped _ hg _ => exact Nat.le_of_eq hg.symm
  | started _ _ _ hg _ => exact hg ▸ Nat.le_succ _

theorem Moves.given_grows {dated next : Dated} (h : Moves dated next) :
    dated.given <+: next.given := by
  cases h with
  | kept _ _ hgiven | dropped _ _ hgiven => exact hgiven ▸ List.prefix_rfl
  | started _ _ _ _ hgiven => exact hgiven ▸ List.prefix_append ..

theorem moves_schedule (service : HintService) (dated : Dated) (background : Bool)
    (plugin : Plugin.Metadata) (key : HintKey) (slot : Plugin.Slot) :
    Moves dated (dated.step service (.schedule background plugin key slot)) := by
  simp only [step, schedule]
  split
  · next endpoint _ _ =>
    cases background with
    | true =>
      refine .started ⟨dated.fetcher.generation + 1, key, plugin, slot⟩ ?_ rfl ?_ ?_ <;>
        simp [start]
    | false => exact .dropped (by simp) (by simp) (by simp)
  · exact .kept rfl rfl (List.append_nil _)

theorem moves_apply (service : HintService) (dated : Dated) (event : HintEvent) :
    Moves dated (dated.step service (.apply event)) := by
  simp only [step, Fetcher.apply]
  split
  · split
    · exact .dropped rfl rfl rfl
    · exact .kept rfl rfl rfl
  · exact .kept rfl rfl rfl

theorem moves_step (service : HintService) (dated : Dated) (operation : Operation) :
    Moves dated (dated.step service operation) := by
  cases operation with
  | schedule background plugin key slot =>
    exact moves_schedule service dated background plugin key slot
  | cancel => exact .dropped (pending_cancel _) (generation_cancel _) rfl
  | reset => exact .dropped (pending_reset _) (generation_cancel _) rfl
  | install | changeSession | settle | advance | take => exact .kept rfl rfl rfl
  | await patience =>
    simp only [step, await]
    split <;> exact .kept rfl rfl rfl
  | apply event => exact moves_apply service dated event

/-! ### Generations -/

/-- The generations that were given ascend to the latest one, and a pending request was given its own.
-/
structure InOrder (dated : Dated) : Prop where
  ascending : dated.given.Pairwise (· < ·)
  given : ∀ generation ∈ dated.given, generation ≤ dated.fetcher.generation
  pending : ∀ request ∈ dated.fetcher.pending, request.generation ∈ dated.given

theorem InOrder.pending_le {dated : Dated} (h : dated.InOrder) :
    ∀ request ∈ dated.fetcher.pending, request.generation ≤ dated.fetcher.generation :=
  fun request hrequest => h.given _ (h.pending request hrequest)

theorem InOrder.moves {dated next : Dated} (h : dated.InOrder) (moves : Moves dated next) :
    next.InOrder := by
  cases moves with
  | kept hp hg hgiven =>
    refine ⟨?_, ?_, ?_⟩
    · rw [hgiven]
      exact h.ascending
    · rw [hgiven, hg]
      exact h.given
    · rw [hgiven, hp]
      exact h.pending
  | dropped hp hg hgiven =>
    refine ⟨?_, ?_, ?_⟩
    · rw [hgiven]
      exact h.ascending
    · rw [hgiven, hg]
      exact h.given
    · simp [hp]
  | started request hp hfresh hg hgiven =>
    refine ⟨?_, ?_, ?_⟩
    · rw [hgiven, List.pairwise_append]
      refine ⟨h.ascending, List.pairwise_singleton _ _, ?_⟩
      intro earlier hearlier generation hgeneration
      rw [List.mem_singleton.1 hgeneration]
      exact Nat.lt_succ_of_le (h.given earlier hearlier)
    · intro generation hmem
      rw [hgiven] at hmem
      rw [hg]
      rcases List.mem_append.1 hmem with hold | hnew
      · exact Nat.le_succ_of_le (h.given generation hold)
      · exact Nat.le_of_eq (List.mem_singleton.1 hnew)
    · intro other hother
      rw [hp] at hother
      cases hother
      rw [hgiven, hfresh]
      exact List.mem_append_right _ (List.mem_singleton_self _)

theorem InOrder.run {dated : Dated} (h : dated.InOrder) (service : HintService)
    (operations : List Operation) : (dated.run service operations).InOrder := by
  induction operations generalizing dated with
  | nil => exact h
  | cons operation operations ih => exact ih (h.moves (moves_step service dated operation))

theorem inOrder_start : InOrder {} := ⟨List.Pairwise.nil, by simp, by simp⟩

end Dated

end RuleHints.Fetcher
