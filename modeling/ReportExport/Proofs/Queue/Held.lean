import Mathlib.Data.Finset.Card
import ReportExport.Proofs.Queue.Delivery

/-!
# The jobs a queue holds

A queue holds a job while the job is queued or reserved (`heldJobs`); their
ids are the queue's live ids. Of the queue's requests only a push takes a
job in: every other one holds, afterwards, only jobs it held before, each
under the same id, on the same queue and with the same payload, a failed
job coming back with one more attempt (`Carries.perform`).

A push of a job whose id is held changes nothing, and a push of any other
job adds that one job (`heldJobs_push`). On a well-formed queue no two held
jobs share an id, so the jobs that share one id among those a test selects
are at most one (`card_filter_le_one`).
-/

namespace ReportExport.MemoryQueue

/-- The jobs a queue holds: the jobs of its queued entries and its reserved
jobs. -/
def heldJobs (q : MemoryQueue) : Multiset QueuedJob := ↑(q.queuedEntries.map (·.job)) + ↑q.reserved

theorem live_eq_map_heldJobs (q : MemoryQueue) : q.live = q.heldJobs.map (·.id) := by
  simp [live, heldJobs, queuedIds, reservedIds, Function.comp_def]

/-- The jobs a queue holds afterwards were held before it, under the same
id, on the same queue and with the same payload. -/
def Carries (q q' : MemoryQueue) : Prop :=
  ∀ j ∈ q'.heldJobs, ∃ j₀ ∈ q.heldJobs, j₀.id = j.id ∧ j₀.queue = j.queue ∧ j₀.payload = j.payload

theorem Carries.refl (q : MemoryQueue) : Carries q q := fun j held => ⟨j, held, rfl, rfl, rfl⟩

theorem Carries.of_subset {q q' : MemoryQueue} (sub : ∀ j ∈ q'.heldJobs, j ∈ q.heldJobs) : Carries q q' :=
  fun j held => ⟨j, sub j held, rfl, rfl, rfl⟩

section Requests

variable {q : MemoryQueue}

theorem heldJobs_enqueue (distinct : (q.queues.map (·.1)).Nodup) (job : QueuedJob) (visibleAt : Nat) :
    (q.enqueue job visibleAt).heldJobs = job ::ₘ q.heldJobs := by
  have queued := congrArg (Multiset.map (·.job)) (queuedEntries_enqueue q job visibleAt distinct)
  simp only [Multiset.map_coe, Multiset.map_cons] at queued
  simp [heldJobs, queued]

/-- A push adds the job unless a job of its id is held. -/
theorem heldJobs_push (distinct : (q.queues.map (·.1)).Nodup) (job : QueuedJob) :
    (q.push job).heldJobs = if job.id ∈ q.live then q.heldJobs else job ::ₘ q.heldJobs := by
  split
  · rename_i held
    rw [push_of_mem_live held]
  · rename_i fresh
    rw [push_of_not_mem_live fresh, heldJobs_enqueue distinct]

@[simp] theorem heldJobs_withNow (now : Nat) : ({ q with now } : MemoryQueue).heldJobs = q.heldJobs := rfl

/-- A pop moves the entry it takes to the reserved jobs. -/
theorem carries_pop (distinct : (q.queues.map (·.1)).Nodup) (name : String) : Carries q (q.pop name).2 := by
  rcases popped : q.pop name with ⟨_ | job, q₁⟩
  · rw [pop_of_none popped]
    exact Carries.refl q
  · obtain ⟨e, rest, found, rfl, rfl⟩ := pop_of_some popped
    -- the taken entry and the entries left were queued before
    have replaced := queuedEntries_setEntries name rest q distinct
    rw [removeFirst_spec found, Multiset.add_cons, ← Multiset.cons_add] at replaced
    have queued := add_right_cancel replaced
    refine Carries.of_subset fun j held => ?_
    simp only [heldJobs, Multiset.mem_add, Multiset.mem_coe, List.mem_map, List.mem_append,
      List.mem_filter, List.mem_singleton] at held ⊢
    rcases held with ⟨x, left, rfl⟩ | ⟨kept, -⟩ | rfl
    · exact .inl ⟨x, Multiset.mem_coe.1 (queued ▸ Multiset.mem_cons_of_mem (Multiset.mem_coe.2 left)), rfl⟩
    · exact .inr kept
    · exact .inl ⟨e, Multiset.mem_coe.1 (queued ▸ Multiset.mem_cons_self _ _), rfl⟩

theorem carries_wait (distinct : (q.queues.map (·.1)).Nodup) (name : String) (timeoutMs : Nat) :
    Carries q (q.wait name timeoutMs).2 := by
  obtain ⟨now, waited | waited⟩ := wait_cases q name timeoutMs <;> rw [waited]
  · exact carries_pop (q := { q with now }) distinct name
  · exact Carries.refl q

/-- Dropping reserved jobs, the queued ones kept, holds only jobs held
before. -/
theorem carries_of_reserved_filter {q' : MemoryQueue} (queues : q'.queues = q.queues) (p : QueuedJob → Bool)
    (reserved : q'.reserved = q.reserved.filter p) : Carries q q' := by
  refine Carries.of_subset fun j held => ?_
  simp only [heldJobs, queuedEntries, queues, reserved, Multiset.mem_add, Multiset.mem_coe, List.mem_filter] at held ⊢
  exact held.imp_right fun kept => kept.1

theorem carries_ack {id : String} {q' : MemoryQueue} (acked : q.ack id = .ok q') : Carries q q' := by
  obtain ⟨job, -, -, rfl⟩ := ack_eq_ok acked
  exact carries_of_reserved_filter rfl _ rfl

/-- A failed job comes back, if it does, as the reserved job it was with one
more attempt. -/
theorem carries_fail (distinct : (q.queues.map (·.1)).Nodup) {id error : String} {d : FailureDisposition}
    {q' : MemoryQueue} (failed : q.fail id error = .ok (d, q')) : Carries q q' := by
  obtain ⟨job, reserved, -, ⟨-, -, rfl⟩ | ⟨-, -, rfl⟩⟩ := fail_eq_ok failed
  · intro j held
    rw [heldJobs_enqueue (q := { q with reserved := q.reserved.filter (·.id != id) }) distinct,
      Multiset.mem_cons] at held
    rcases held with rfl | held
    · exact ⟨job, Multiset.mem_add.2 (.inr (Multiset.mem_coe.2 reserved)), rfl, rfl, rfl⟩
    · have kept : Carries q { q with reserved := q.reserved.filter (·.id != id) } :=
        carries_of_reserved_filter rfl _ rfl
      exact kept j held
  · exact carries_of_reserved_filter rfl _ rfl

/-- Every request but a push holds only jobs it held before. -/
theorem Carries.perform (distinct : (q.queues.map (·.1)).Nodup) (call : QueueCall)
    (drawn : ∀ job, call ≠ .push job) : Carries q (q.perform call) := by
  cases call with
  | push job => exact absurd rfl (drawn job)
  | pop name => exact carries_pop distinct name
  | wait name timeoutMs => exact carries_wait distinct name timeoutMs
  | ack id =>
    cases acked : q.ack id with
    | error e => simp only [MemoryQueue.perform, acked]; exact Carries.refl q
    | ok q' => simp only [MemoryQueue.perform, acked]; exact carries_ack acked
  | fail id error =>
    cases failed : q.fail id error with
    | error e => simp only [MemoryQueue.perform, failed]; exact Carries.refl q
    | ok result => simp only [MemoryQueue.perform, failed]; exact carries_fail distinct failed
  | elapse ms => exact Carries.refl q

end Requests

/-- On a well-formed queue, held jobs that a test selects and that all share
one id are at most one. -/
theorem Conserving.card_filter_le_one {q : MemoryQueue} (c : q.Conserving) (p : QueuedJob → Prop) [DecidablePred p]
    (shared : ∀ j ∈ q.heldJobs, ∀ j' ∈ q.heldJobs, p j → p j' → j.id = j'.id) :
    (q.heldJobs.filter p).card ≤ 1 := by
  -- the selected jobs have distinct ids, and there is one id among them
  have distinct : ((q.heldJobs.filter p).map (·.id)).Nodup :=
    Multiset.nodup_of_le (Multiset.map_le_map (Multiset.filter_le p _)) (live_eq_map_heldJobs q ▸ c.distinctIds)
  calc (q.heldJobs.filter p).card = ((q.heldJobs.filter p).map (·.id)).card := (Multiset.card_map _ _).symm
    _ = ((q.heldJobs.filter p).map (·.id)).toFinset.card := (Multiset.toFinset_card_of_nodup distinct).symm
    _ ≤ 1 := Finset.card_le_one.2 fun a ha b hb => by
      simp only [Multiset.mem_toFinset, Multiset.mem_map, Multiset.mem_filter] at ha hb
      obtain ⟨j, ⟨held, selected⟩, rfl⟩ := ha
      obtain ⟨j', ⟨held', selected'⟩, rfl⟩ := hb
      exact shared j held j' held' selected selected'

end ReportExport.MemoryQueue
