import Mathlib.Algebra.Order.Group.Multiset
import Mathlib.Tactic.Abel
import ReportExport.Queue.Memory

/-!
# The in-memory queue conserves its jobs

A job enters the queue when a push takes it, and leaves it when it is
acknowledged or parked among the dead letters; in between it is queued on
its own queue or reserved, and popping, waiting and failing it only move it
between the two. This module states that as an accounting identity over any
sequence of requests made of a queue that starts with no jobs:

* no job id is held twice, whether queued on any queue or reserved
  (`Conserving.distinctIds`), and every queued entry sits on its job's own
  queue (`Conserving.ownQueue`);
* the ids the pushes took are exactly the ids held now, those acknowledged
  and those dead-lettered, counted with multiplicity (`Conserving.replay`,
  from the books of one request, `Conserving.perform`);
* the dead letters are the last `deadLetterLimit` of those dead-lettered, in
  order (`letterIds_replay`).

`replay_conserves_jobs` gathers these for a queue that starts with no job.

What a request did to the jobs is read off its result (`events`): an
acknowledgement or failure the queue took, a failure that reports the job
dead-lettered; a push takes its job exactly when the id is not held, which
is what makes a second push of a held id do nothing (`push_of_mem_live`).
-/

namespace ReportExport

/-- A request made of the in-memory queue, or time passing between requests. -/
inductive QueueCall where
  | push (job : QueuedJob)
  | pop (name : String)
  | wait (name : String) (timeoutMs : Nat)
  | ack (id : String)
  | fail (id : String) (error : String)
  | elapse (ms : Nat)

/-- What a request did to the jobs, as its caller sees it. -/
inductive JobEvent where
  /-- a push that took its job -/
  | accepted (job : QueuedJob)
  /-- an acknowledgement the queue took -/
  | acknowledged (id : String)
  /-- a failure that parked the job among the dead letters, with its error -/
  | deadLettered (id : String) (error : String)

namespace JobEvent

/-- The id of a job a push took. -/
def acceptedId? : JobEvent → Option String
  | .accepted job => some job.id
  | _ => none

/-- The id of an acknowledged job. -/
def acknowledgedId? : JobEvent → Option String
  | .acknowledged id => some id
  | _ => none

/-- The id and error of a dead-lettered job. -/
def deadLetter? : JobEvent → Option (String × String)
  | .deadLettered id error => some (id, error)
  | _ => none

end JobEvent

namespace MemoryQueue

/-! ## Views of the jobs a queue holds -/

/-- Every queued entry, queue by queue. -/
def queuedEntries (q : MemoryQueue) : List QueueEntry := q.queues.flatMap (·.2)

/-- The ids of the queued jobs. -/
def queuedIds (q : MemoryQueue) : List String := q.queuedEntries.map (·.job.id)

/-- The ids of the reserved jobs. -/
def reservedIds (q : MemoryQueue) : List String := q.reserved.map (·.id)

/-- The ids of the jobs the queue holds, queued or reserved, with their
multiplicities. -/
def live (q : MemoryQueue) : Multiset String := ↑q.queuedIds + ↑q.reservedIds

/-! ## Requests and their history -/

/-- The queue after a request; a refused acknowledgement or failure leaves it
as it was. -/
def perform (q : MemoryQueue) : QueueCall → MemoryQueue
  | .push job => q.push job
  | .pop name => (q.pop name).2
  | .wait name timeoutMs => (q.wait name timeoutMs).2
  | .ack id =>
    match q.ack id with
    | .ok q' => q'
    | .error _ => q
  | .fail id error =>
    match q.fail id error with
    | .ok (_, q') => q'
    | .error _ => q
  | .elapse ms => { q with now := q.now + ms }

/-- The queue after a sequence of requests. -/
def replay (q : MemoryQueue) : List QueueCall → MemoryQueue
  | [] => q
  | c :: cs => (q.perform c).replay cs

/-- What a request did to the jobs: a push of an id the queue does not hold
takes its job; an acknowledgement the queue took settles its job; a failure
reported as dead-lettered parks its job. -/
def events (q : MemoryQueue) : QueueCall → List JobEvent
  | .push job => if job.id ∈ q.live then [] else [.accepted job]
  | .ack id =>
    match q.ack id with
    | .ok _ => [.acknowledged id]
    | .error _ => []
  | .fail id error =>
    match q.fail id error with
    | .ok (.deadLettered, _) => [.deadLettered id error]
    | _ => []
  | _ => []

/-- What a sequence of requests did to the jobs, in order. -/
def history (q : MemoryQueue) : List QueueCall → List JobEvent
  | [] => []
  | c :: cs => q.events c ++ (q.perform c).history cs

/-- What every reachable queue satisfies: its queues have distinct names,
each entry sits on its job's own queue, and no job id is held twice. -/
structure Conserving (q : MemoryQueue) : Prop where
  distinctNames : (q.queues.map (·.1)).Nodup
  ownQueue : ∀ p ∈ q.queues, ∀ e ∈ p.2, e.job.queue = p.1
  distinctIds : q.live.Nodup

/-! ## Named queues -/

section Entries

variable (name : String) (es : List QueueEntry)

/-- Replacing the entries of a queue that is present swaps its block of the
queued entries for the new one. -/
theorem flatMap_replace : ∀ qs : List (String × List QueueEntry), (qs.map (·.1)).Nodup →
    qs.any (·.1 == name) = true →
      (↑((qs.map fun e => if e.1 == name then (name, es) else e).flatMap (·.2)) : Multiset QueueEntry) +
        ↑(((qs.find? (·.1 == name)).map Prod.snd).getD []) = ↑(qs.flatMap (·.2)) + ↑es
  | [], _, present => by simp at present
  | (n, xs) :: rest, distinct, present => by
    rw [List.map_cons, List.nodup_cons] at distinct
    by_cases same : n = name
    · subst same
      -- the other queues keep their entries: none of them has the name
      have others : rest.map (fun e => if e.1 == n then (n, es) else e) = rest := by
        conv_rhs => rw [← List.map_id rest]
        refine List.map_congr_left fun e he => ?_
        have : e.1 ≠ n := fun h => distinct.1 (List.mem_map.2 ⟨e, he, h⟩)
        simp [this]
      simp only [List.map_cons, beq_self_eq_true, if_true, others, List.flatMap_cons, List.find?_cons,
        Option.map_some, Option.getD_some, ← Multiset.coe_add]
      abel
    · have present' : rest.any (·.1 == name) = true := by simpa [same] using present
      have step := flatMap_replace rest distinct.2 present'
      have skip : (n == name) = false := beq_false_of_ne same
      simp only [List.map_cons, beq_iff_eq, same, if_false, List.flatMap_cons, List.find?_cons, skip,
        ← Multiset.coe_add]
      simp only [beq_iff_eq] at step
      rw [add_assoc, step, add_assoc]

/-- Replacing the entries of a named queue takes that queue's entries out of
the queued entries and puts the new ones in. -/
theorem queuedEntries_setEntries (q : MemoryQueue) (distinct : (q.queues.map (·.1)).Nodup) :
    (↑(q.setEntries name es).queuedEntries : Multiset QueueEntry) + ↑(q.entries name) =
      ↑q.queuedEntries + ↑es := by
  unfold setEntries entries queuedEntries
  split
  · rename_i present
    exact flatMap_replace name es q.queues distinct present
  · rename_i absent
    have none : q.queues.find? (·.1 == name) = none := by
      rw [List.find?_eq_none]
      intro p hp named
      exact absent (List.any_eq_true.2 ⟨p, hp, named⟩)
    simp [none]

theorem names_setEntries (q : MemoryQueue) (distinct : (q.queues.map (·.1)).Nodup) :
    ((q.setEntries name es).queues.map (·.1)).Nodup := by
  unfold setEntries
  split
  · rename_i present
    have same : (q.queues.map fun e => if e.1 == name then (name, es) else e).map (·.1) = q.queues.map (·.1) := by
      rw [List.map_map]
      refine List.map_congr_left fun e _ => ?_
      by_cases h : e.1 = name <;> simp [h]
    rw [same]
    exact distinct
  · rename_i absent
    rw [List.map_append, List.nodup_append]
    refine ⟨distinct, by simp, ?_⟩
    intro a ha b hb same
    simp only [List.map_cons, List.map_nil, List.mem_singleton] at hb
    obtain ⟨p, hp, rfl⟩ := List.mem_map.1 ha
    exact absent (List.any_eq_true.2 ⟨p, hp, by simp [same, hb]⟩)

theorem ownQueue_setEntries (q : MemoryQueue) (own : ∀ p ∈ q.queues, ∀ e ∈ p.2, e.job.queue = p.1)
    (fits : ∀ e ∈ es, e.job.queue = name) : ∀ p ∈ (q.setEntries name es).queues, ∀ e ∈ p.2, e.job.queue = p.1 := by
  unfold setEntries
  split
  · simp only [List.mem_map]
    rintro _ ⟨p, hp, rfl⟩ e he
    by_cases h : p.1 = name
    · simp only [h, beq_self_eq_true, if_true] at he ⊢
      exact fits e he
    · simp only [beq_iff_eq, h, if_false] at he ⊢
      exact own p hp e he
  · simp only [List.mem_append, List.mem_cons, List.not_mem_nil, or_false]
    rintro p (hp | rfl) e he
    · exact own p hp e he
    · exact fits e he

/-- An entry of a named queue is a job of that queue. -/
theorem queue_of_mem_entries {q : MemoryQueue} (own : ∀ p ∈ q.queues, ∀ e ∈ p.2, e.job.queue = p.1)
    {e : QueueEntry} (h : e ∈ q.entries name) : e.job.queue = name := by
  unfold entries at h
  cases found : q.queues.find? (·.1 == name) with
  | none => simp [found] at h
  | some p =>
    simp only [found, Option.map_some, Option.getD_some] at h
    have named : p.1 = name := by simpa using List.find?_some found
    exact named ▸ own p (List.mem_of_find?_eq_some found) e h

end Entries

/-- Enqueueing a job adds its entry to the queued entries. -/
theorem queuedEntries_enqueue (q : MemoryQueue) (job : QueuedJob) (visibleAt : Nat)
    (distinct : (q.queues.map (·.1)).Nodup) :
    (↑(q.enqueue job visibleAt).queuedEntries : Multiset QueueEntry) = ⟨job, visibleAt⟩ ::ₘ ↑q.queuedEntries := by
  have step := queuedEntries_setEntries job.queue (q.entries job.queue ++ [⟨job, visibleAt⟩]) q distinct
  apply add_right_cancel (b := (↑(q.entries job.queue) : Multiset QueueEntry))
  rw [enqueue, step, ← Multiset.coe_add, Multiset.coe_singleton, ← Multiset.singleton_add]
  abel

/-! ## What each request leaves alone -/

section Fields

variable (q : MemoryQueue) (name : String) (es : List QueueEntry) (job : QueuedJob) (visibleAt : Nat)

@[simp] theorem reserved_setEntries : (q.setEntries name es).reserved = q.reserved := by
  unfold setEntries; split <;> rfl

@[simp] theorem deadLetters_setEntries : (q.setEntries name es).deadLetters = q.deadLetters := by
  unfold setEntries; split <;> rfl

@[simp] theorem deadLetterLimit_setEntries : (q.setEntries name es).deadLetterLimit = q.deadLetterLimit := by
  unfold setEntries; split <;> rfl

@[simp] theorem reserved_enqueue : (q.enqueue job visibleAt).reserved = q.reserved := by simp [enqueue]

@[simp] theorem deadLetters_enqueue : (q.enqueue job visibleAt).deadLetters = q.deadLetters := by simp [enqueue]

@[simp] theorem deadLetterLimit_enqueue : (q.enqueue job visibleAt).deadLetterLimit = q.deadLetterLimit := by
  simp [enqueue]

theorem deadLetters_push : (q.push job).deadLetters = q.deadLetters := by
  unfold push; split <;> simp

theorem deadLetterLimit_push : (q.push job).deadLetterLimit = q.deadLetterLimit := by
  unfold push; split <;> simp

theorem deadLetters_pop : (q.pop name).2.deadLetters = q.deadLetters := by
  unfold pop; split <;> simp

theorem deadLetterLimit_pop : (q.pop name).2.deadLetterLimit = q.deadLetterLimit := by
  unfold pop; split <;> simp

end Fields

/-! ## What each request can do -/

/-- The entry a search takes is the first that passes its test, and the
others stay in their order. -/
theorem removeFirst_eq_some {p : QueueEntry → Bool} :
    ∀ {es : List QueueEntry} {e : QueueEntry} {rest : List QueueEntry}, removeFirst p es = some (e, rest) →
      ∃ before after, es = before ++ e :: after ∧ (∀ b ∈ before, p b = false) ∧ p e = true ∧
        rest = before ++ after
  | [], _, _, h => by simp [removeFirst] at h
  | x :: xs, e, rest, h => by
    unfold removeFirst at h
    by_cases hx : p x
    · simp only [hx, if_true, Option.some.injEq, Prod.mk.injEq] at h
      obtain ⟨rfl, rfl⟩ := h
      exact ⟨[], _, rfl, by simp, hx, rfl⟩
    · simp only [hx, Bool.false_eq_true, if_false] at h
      obtain ⟨⟨found, others⟩, hfound, heq⟩ := Option.map_eq_some_iff.1 h
      simp only [Prod.mk.injEq] at heq
      obtain ⟨rfl, rfl⟩ := heq
      obtain ⟨before, after, rfl, skipped, hit, rfl⟩ := removeFirst_eq_some hfound
      refine ⟨x :: before, after, rfl, ?_, hit, rfl⟩
      simp only [List.mem_cons, forall_eq_or_imp]
      exact ⟨by simpa using hx, skipped⟩

theorem removeFirst_eq_none {p : QueueEntry → Bool} :
    ∀ {es : List QueueEntry}, removeFirst p es = none → ∀ e ∈ es, p e = false
  | [], _ => by simp
  | x :: xs, h => by
    unfold removeFirst at h
    by_cases hx : p x
    · simp [hx] at h
    · simp only [hx, Bool.false_eq_true, if_false, Option.map_eq_none_iff] at h
      simp only [List.mem_cons, forall_eq_or_imp]
      exact ⟨by simpa using hx, removeFirst_eq_none h⟩

/-- Taking the first entry that passes a test leaves the others. -/
theorem removeFirst_spec {p : QueueEntry → Bool} {es : List QueueEntry} {e : QueueEntry} {rest : List QueueEntry}
    (h : removeFirst p es = some (e, rest)) : (↑es : Multiset QueueEntry) = e ::ₘ ↑rest := by
  obtain ⟨before, after, rfl, -, -, rfl⟩ := removeFirst_eq_some h
  rw [Multiset.cons_coe]
  exact Multiset.coe_eq_coe.mpr List.perm_middle

/-- A pop that finds no visible job changes nothing. -/
theorem pop_of_none {q q₁ : MemoryQueue} {name : String} (h : q.pop name = (none, q₁)) : q₁ = q := by
  unfold pop at h
  split at h
  · simp_all
  · simp at h

/-- A pop that reserves a job took the first visible entry of its queue. -/
theorem pop_of_some {q q₁ : MemoryQueue} {name : String} {job : QueuedJob} (h : q.pop name = (some job, q₁)) :
    ∃ e rest, removeFirst (fun e => e.availableAt ≤ q.now) (q.entries name) = some (e, rest) ∧ e.job = job ∧
      q₁ = { q.setEntries name rest with reserved := q.reserved.filter (·.id != e.job.id) ++ [e.job] } := by
  unfold pop at h
  split at h
  · simp at h
  · rename_i e rest found
    simp only [Prod.mk.injEq, Option.some.injEq] at h
    obtain ⟨rfl, rfl⟩ := h
    exact ⟨e, rest, found, rfl, by simp⟩

/-- A wait is a pop at a moment no earlier than the present, or only the
clock moving. -/
theorem wait_cases (q : MemoryQueue) (name : String) (timeoutMs : Nat) :
    ∃ now, (q.wait name timeoutMs).2 = ({ q with now }.pop name).2 ∨ (q.wait name timeoutMs).2 = { q with now } := by
  unfold wait
  rcases popped : q.pop name with ⟨_ | job, q₁⟩
  · obtain rfl := pop_of_none popped
    simp only
    split
    · split
      · exact ⟨_, .inl rfl⟩
      · exact ⟨_, .inr rfl⟩
    · exact ⟨_, .inr rfl⟩
  · exact ⟨q.now, .inl (by simp [popped])⟩

/-- Taking a reservation away: the reserved job of the id, and the queue
without it. -/
theorem unreserve_eq_some {q q₁ : MemoryQueue} {id : String} {job : QueuedJob}
    (h : q.unreserve id = some (job, q₁)) :
    job ∈ q.reserved ∧ job.id = id ∧ q₁ = { q with reserved := q.reserved.filter (·.id != id) } := by
  unfold unreserve at h
  split at h
  · rename_i j found
    simp only [Option.some.injEq, Prod.mk.injEq] at h
    obtain ⟨rfl, rfl⟩ := h
    exact ⟨List.mem_of_find?_eq_some found, by simpa using List.find?_some found, rfl⟩
  · simp at h

theorem unreserve_eq_none_iff (q : MemoryQueue) (id : String) : q.unreserve id = none ↔ id ∉ q.reservedIds := by
  unfold unreserve reservedIds
  split
  · rename_i j found
    simp only [reduceCtorEq, false_iff, not_not, List.mem_map]
    exact ⟨j, List.mem_of_find?_eq_some found, by simpa using List.find?_some found⟩
  · rename_i missing
    simp only [true_iff, List.mem_map, not_exists, not_and]
    intro j hj same
    have := List.find?_eq_none.1 missing j hj
    simp [same] at this

/-- An acknowledgement the queue took removes the job's reservation. -/
theorem ack_eq_ok {q q' : MemoryQueue} {id : String} (h : q.ack id = .ok q') :
    ∃ job ∈ q.reserved, job.id = id ∧ q' = { q with reserved := q.reserved.filter (·.id != id) } := by
  unfold ack at h
  split at h
  · rename_i job q₁ taken
    cases h
    obtain ⟨held, named, rfl⟩ := unreserve_eq_some taken
    exact ⟨job, held, named, rfl⟩
  · cases h

/-- An acknowledgement or failure of an id that is not reserved is refused. -/
theorem ack_eq_error_iff (q : MemoryQueue) (id : String) :
    q.ack id = .error (.notReserved id) ↔ id ∉ q.reservedIds := by
  rw [← unreserve_eq_none_iff]
  unfold ack
  split <;> simp_all

theorem fail_eq_error_iff (q : MemoryQueue) (id error : String) :
    q.fail id error = .error (.notReserved id) ↔ id ∉ q.reservedIds := by
  rw [← unreserve_eq_none_iff]
  unfold fail
  split
  · simp_all
  · rename_i job q₁ taken
    rw [taken]
    simp only [reduceCtorEq, iff_false]
    split <;> simp

/-- A failure the queue took: the reserved job, one more attempt counted, goes
back on its queue after the backoff while attempts remain, and is parked
among the dead letters otherwise. -/
theorem fail_eq_ok {q q' : MemoryQueue} {id error : String} {d : FailureDisposition}
    (h : q.fail id error = .ok (d, q')) :
    ∃ job ∈ q.reserved, job.id = id ∧
      let q₁ : MemoryQueue := { q with reserved := q.reserved.filter (·.id != id) }
      let job' := { job with attempts := job.attempts + 1 }
      (job'.attempts < q.maxAttempts ∧ d = .released job'.attempts ∧
          q' = q₁.enqueue job' (q.now + q.backoffMs)) ∨
        (¬ job'.attempts < q.maxAttempts ∧ d = .deadLettered ∧
          q' = { q₁ with deadLetters := keepLast q.deadLetterLimit (q.deadLetters ++ [(job', error)]) }) := by
  unfold fail at h
  split at h
  · simp at h
  · rename_i job q₁ taken
    obtain ⟨held, named, rfl⟩ := unreserve_eq_some taken
    refine ⟨job, held, named, ?_⟩
    simp only at h ⊢
    split at h
    · rename_i more
      simp only [Except.ok.injEq, Prod.mk.injEq] at h
      exact .inl ⟨more, h.1.symm, h.2.symm⟩
    · rename_i exhausted
      simp only [Except.ok.injEq, Prod.mk.injEq] at h
      exact .inr ⟨exhausted, h.1.symm, h.2.symm⟩

/-! ## The held ids under each request -/

theorem knows_iff_mem_live (q : MemoryQueue) (id : String) : q.knows id = true ↔ id ∈ q.live := by
  unfold knows live queuedIds reservedIds queuedEntries
  simp only [Bool.or_eq_true, List.any_eq_true, beq_iff_eq, Multiset.mem_add, Multiset.mem_coe, List.mem_map,
    List.mem_flatMap]
  constructor
  · rintro (⟨p, hp, e, he, rfl⟩ | ⟨j, hj, rfl⟩)
    · exact .inl ⟨e, ⟨p, hp, he⟩, rfl⟩
    · exact .inr ⟨j, hj, rfl⟩
  · rintro (⟨e, ⟨p, hp, he⟩, rfl⟩ | ⟨j, hj, rfl⟩)
    · exact .inl ⟨p, hp, e, he, rfl⟩
    · exact .inr ⟨j, hj, rfl⟩

/-- Every id the queue holds is among its job ids. -/
theorem mem_jobIds_of_mem_live {q : MemoryQueue} {id : String} (held : id ∈ q.live) : id ∈ q.jobIds := by
  simp only [live, queuedIds, reservedIds, queuedEntries, Multiset.mem_add, Multiset.mem_coe, List.mem_map,
    List.mem_flatMap] at held
  simp only [jobIds, List.mem_append, List.mem_flatMap, List.mem_map]
  rcases held with ⟨entry, ⟨p, hp, he⟩, rfl⟩ | ⟨j, hj, rfl⟩
  · exact .inl (.inl ⟨p, hp, entry, he, rfl⟩)
  · exact .inl (.inr ⟨j, hj, rfl⟩)

/-- A push of an id the queue holds changes nothing. -/
theorem push_of_mem_live {q : MemoryQueue} {job : QueuedJob} (held : job.id ∈ q.live) : q.push job = q := by
  simp [push, (knows_iff_mem_live q job.id).2 held]

theorem push_of_not_mem_live {q : MemoryQueue} {job : QueuedJob} (fresh : job.id ∉ q.live) :
    q.push job = q.enqueue job q.now := by
  have unknown : q.knows job.id = false := Bool.eq_false_iff.2 fun h => fresh ((knows_iff_mem_live q job.id).1 h)
  simp [push, unknown]

/-- Enqueueing adds the job's id to those held. -/
theorem live_enqueue (q : MemoryQueue) (job : QueuedJob) (visibleAt : Nat) (distinct : (q.queues.map (·.1)).Nodup) :
    (q.enqueue job visibleAt).live = job.id ::ₘ q.live := by
  have entries := queuedEntries_enqueue q job visibleAt distinct
  simp only [live, queuedIds, reservedIds, reserved_enqueue]
  rw [← Multiset.map_coe, entries, Multiset.map_cons, Multiset.map_coe, Multiset.cons_add]

/-- Removing the reservations of one id takes exactly one id out, when the
reserved ids are distinct. -/
theorem ids_filter_ne : ∀ {l : List QueuedJob}, (l.map (·.id)).Nodup → ∀ {j : QueuedJob}, j ∈ l →
    (↑(l.map (·.id)) : Multiset String) = j.id ::ₘ ↑((l.filter (·.id != j.id)).map (·.id))
  | [], _, _, hj => by simp at hj
  | b :: rest, distinct, j, hj => by
    rw [List.map_cons, List.nodup_cons] at distinct
    by_cases same : b.id = j.id
    · -- the others keep their reservations: none has the id
      have others : rest.filter (·.id != j.id) = rest := by
        refine List.filter_eq_self.2 fun x hx => ?_
        have : x.id ≠ j.id := fun h => distinct.1 (same ▸ h ▸ List.mem_map_of_mem hx)
        simpa using this
      simp [same, others]
    · have hj' : j ∈ rest := by
        rcases List.mem_cons.1 hj with rfl | hj'
        · exact absurd rfl same
        · exact hj'
      have keep : (b.id != j.id) = true := by simpa using same
      rw [List.filter_cons, if_pos keep, List.map_cons, List.map_cons, ← Multiset.cons_coe, ← Multiset.cons_coe,
        ids_filter_ne distinct.2 hj', Multiset.cons_swap]

section Steps

variable {q : MemoryQueue}

theorem Conserving.enqueue (c : q.Conserving) (job : QueuedJob) (visibleAt : Nat) (fresh : job.id ∉ q.live) :
    (q.enqueue job visibleAt).Conserving where
  distinctNames := names_setEntries _ _ q c.distinctNames
  ownQueue := ownQueue_setEntries _ _ q c.ownQueue fun e he => by
    rcases List.mem_append.1 he with old | new
    · exact queue_of_mem_entries _ c.ownQueue old
    · simp only [List.mem_singleton] at new
      rw [new]
  distinctIds := by
    rw [live_enqueue q job visibleAt c.distinctNames, Multiset.nodup_cons]
    exact ⟨fresh, c.distinctIds⟩

/-- Moving the clock changes no job. -/
theorem Conserving.withNow (c : q.Conserving) (now : Nat) : ({ q with now } : MemoryQueue).Conserving :=
  ⟨c.distinctNames, c.ownQueue, c.distinctIds⟩

/-- A pop moves a job from its queue to the reservations. -/
theorem Conserving.pop (c : q.Conserving) (name : String) :
    (q.pop name).2.live = q.live ∧ (q.pop name).2.Conserving := by
  rcases popped : q.pop name with ⟨_ | job, q₁⟩
  · obtain rfl := pop_of_none popped
    exact ⟨rfl, c⟩
  · obtain ⟨e, rest, found, -, popped₁⟩ := pop_of_some popped
    show q₁.live = q.live ∧ q₁.Conserving
    have queues₁ : q₁.queues = (q.setEntries name rest).queues := by rw [popped₁]
    have reserved₁ : q₁.reserved = q.reserved.filter (·.id != e.job.id) ++ [e.job] := by rw [popped₁]
    have taken := removeFirst_spec found
    have replaced := queuedEntries_setEntries name rest q c.distinctNames
    rw [taken, Multiset.add_cons, ← Multiset.cons_add] at replaced
    -- the queued entries lost exactly the entry taken
    have queued : (↑q.queuedEntries : Multiset QueueEntry) = e ::ₘ ↑(q.setEntries name rest).queuedEntries :=
      (add_right_cancel replaced).symm
    have wasQueued : e.job.id ∈ q.queuedIds := by
      rw [queuedIds, ← Multiset.mem_coe, ← Multiset.map_coe, queued]
      simp
    have notReserved : e.job.id ∉ q.reservedIds := by
      have := c.distinctIds
      rw [live, Multiset.nodup_add] at this
      exact Multiset.disjoint_left.1 this.2.2 (Multiset.mem_coe.2 wasQueued)
    have keep : q.reserved.filter (·.id != e.job.id) = q.reserved := by
      refine List.filter_eq_self.2 fun x hx => ?_
      have : x.id ≠ e.job.id := fun h => notReserved (h ▸ List.mem_map_of_mem hx)
      simpa using this
    have ids : (↑(q.queuedEntries.map (·.job.id)) : Multiset String) =
        e.job.id ::ₘ ↑((q.setEntries name rest).queuedEntries.map (·.job.id)) := by
      rw [← Multiset.map_coe, queued, Multiset.map_cons, Multiset.map_coe]
    have same : q₁.live = q.live := by
      have entries₁ : q₁.queuedEntries = (q.setEntries name rest).queuedEntries := by
        simp only [queuedEntries, queues₁]
      simp only [live, queuedIds, reservedIds, entries₁, reserved₁, keep]
      rw [ids, List.map_append, ← Multiset.coe_add, List.map_singleton, Multiset.coe_singleton,
        ← Multiset.singleton_add]
      abel
    refine ⟨same, ⟨?_, ?_, ?_⟩⟩
    · rw [queues₁]
      exact names_setEntries _ _ q c.distinctNames
    · rw [queues₁]
      refine ownQueue_setEntries _ _ q c.ownQueue fun x hx => ?_
      have : x ∈ (↑(q.entries name) : Multiset QueueEntry) := by rw [taken]; exact Multiset.mem_cons_of_mem hx
      exact queue_of_mem_entries _ c.ownQueue (Multiset.mem_coe.1 this)
    · rw [same]
      exact c.distinctIds

/-- A wait moves the clock and perhaps pops a job. -/
theorem Conserving.wait (c : q.Conserving) (name : String) (timeoutMs : Nat) :
    (q.wait name timeoutMs).2.live = q.live ∧ (q.wait name timeoutMs).2.Conserving := by
  obtain ⟨now, popped | idle⟩ := wait_cases q name timeoutMs
  · rw [popped]
    exact (c.withNow now).pop name
  · rw [idle]
    exact ⟨rfl, c.withNow now⟩

/-- Taking a reserved job away takes its id out of those held. -/
theorem Conserving.unreserved (c : q.Conserving) {job : QueuedJob} (held : job ∈ q.reserved) :
    q.live = job.id ::ₘ ({ q with reserved := q.reserved.filter (·.id != job.id) } : MemoryQueue).live ∧
      ({ q with reserved := q.reserved.filter (·.id != job.id) } : MemoryQueue).Conserving := by
  have distinct : q.reservedIds.Nodup := by
    have := c.distinctIds
    rw [live, Multiset.nodup_add] at this
    exact Multiset.coe_nodup.1 this.2.1
  have taken : q.live = job.id ::ₘ ({ q with reserved := q.reserved.filter (·.id != job.id) } : MemoryQueue).live := by
    simp only [live, reservedIds, queuedIds, queuedEntries]
    rw [ids_filter_ne distinct held, Multiset.add_cons]
  refine ⟨taken, c.distinctNames, c.ownQueue, ?_⟩
  have := c.distinctIds
  rw [taken, Multiset.nodup_cons] at this
  exact this.2

theorem Conserving.ack (c : q.Conserving) {id : String} {q' : MemoryQueue} (h : q.ack id = .ok q') :
    q.live = id ::ₘ q'.live ∧ q'.Conserving := by
  obtain ⟨job, held, rfl, rfl⟩ := ack_eq_ok h
  exact c.unreserved held

/-- A failure the queue took puts the job back on its queue, keeping the
held ids, or parks it, taking its id out. -/
theorem Conserving.fail (c : q.Conserving) {id error : String} {d : FailureDisposition} {q' : MemoryQueue}
    (h : q.fail id error = .ok (d, q')) :
    q'.Conserving ∧ q.live = if d = .deadLettered then id ::ₘ q'.live else q'.live := by
  obtain ⟨job, held, rfl, released | parked⟩ := fail_eq_ok h
  · obtain ⟨-, rfl, rfl⟩ := released
    obtain ⟨taken, kept⟩ := c.unreserved held
    have fresh : job.id ∉ ({ q with reserved := q.reserved.filter (·.id != job.id) } : MemoryQueue).live := by
      have := c.distinctIds
      rw [taken, Multiset.nodup_cons] at this
      exact this.1
    refine ⟨kept.enqueue { job with attempts := job.attempts + 1 } _ fresh, ?_⟩
    rw [if_neg (by simp), live_enqueue _ _ _ kept.distinctNames, taken]
  · obtain ⟨-, rfl, rfl⟩ := parked
    obtain ⟨taken, kept⟩ := c.unreserved held
    exact ⟨⟨kept.distinctNames, kept.ownQueue, kept.distinctIds⟩, taken⟩

end Steps

/-! ## The books of a request -/

/-- One request keeps the queue well-formed and balances the books: the ids it
took in and those held before are those held after and those it settled. -/
theorem Conserving.perform {q : MemoryQueue} (c : q.Conserving) (call : QueueCall) :
    (q.perform call).Conserving ∧
      (↑((q.events call).filterMap JobEvent.acceptedId?) : Multiset String) + q.live =
        (q.perform call).live + ↑((q.events call).filterMap JobEvent.acknowledgedId?) +
          ↑(((q.events call).filterMap JobEvent.deadLetter?).map Prod.fst) := by
  cases call with
  | push job =>
    by_cases held : job.id ∈ q.live
    · simp [MemoryQueue.perform, events, held, push_of_mem_live held, c]
    · simp only [MemoryQueue.perform, events, held, if_false, push_of_not_mem_live held]
      refine ⟨c.enqueue job q.now held, ?_⟩
      simp [live_enqueue q job q.now c.distinctNames, JobEvent.acceptedId?, JobEvent.acknowledgedId?, JobEvent.deadLetter?, List.filterMap_cons, List.filterMap_nil,
        Multiset.singleton_add]
  | pop name =>
    obtain ⟨same, kept⟩ := c.pop name
    simp [MemoryQueue.perform, events, same, kept]
  | wait name timeoutMs =>
    obtain ⟨same, kept⟩ := c.wait name timeoutMs
    simp [MemoryQueue.perform, events, same, kept]
  | ack id =>
    cases acked : q.ack id with
    | error e => simp [MemoryQueue.perform, events, acked, c]
    | ok q' =>
      obtain ⟨taken, kept⟩ := c.ack acked
      simp [MemoryQueue.perform, events, acked, kept, taken, JobEvent.acceptedId?, JobEvent.acknowledgedId?, JobEvent.deadLetter?, List.filterMap_cons, List.filterMap_nil,
        Multiset.singleton_add, add_comm]
  | fail id error =>
    cases failed : q.fail id error with
    | error e => simp [MemoryQueue.perform, events, failed, c]
    | ok result =>
      obtain ⟨d, q'⟩ := result
      obtain ⟨kept, books⟩ := c.fail failed
      cases d with
      | released attempts => simp_all [MemoryQueue.perform, events]
      | deadLettered =>
        simp_all [MemoryQueue.perform, events, JobEvent.acceptedId?, JobEvent.acknowledgedId?, JobEvent.deadLetter?, List.filterMap_cons, List.filterMap_nil,
          Multiset.singleton_add, add_comm]
  | elapse ms => exact ⟨c.withNow _, by simp [MemoryQueue.perform, events]; rfl⟩

/-! ## Dead letters -/

/-- The dead letters by job id and error. -/
def letterIds (q : MemoryQueue) : List (String × String) := q.deadLetters.map fun d => (d.1.id, d.2)

theorem map_keepLast {α β : Type} (f : α → β) (n : Nat) (xs : List α) :
    (keepLast n xs).map f = keepLast n (xs.map f) := by
  simp [keepLast, List.map_drop]

/-- Keeping the last `n` of a list and then of what follows it keeps the last
`n` of the whole. -/
theorem keepLast_keepLast_append {α : Type} (n : Nat) (xs ys : List α) :
    keepLast n (keepLast n xs ++ ys) = keepLast n (xs ++ ys) := by
  unfold keepLast
  rw [← List.drop_append_of_le_length (Nat.sub_le xs.length n), List.drop_drop]
  congr 1
  simp only [List.length_append, List.length_drop]
  omega

theorem deadLetterLimit_perform (q : MemoryQueue) (call : QueueCall) :
    (q.perform call).deadLetterLimit = q.deadLetterLimit := by
  cases call with
  | push job => exact deadLetterLimit_push q job
  | pop name => exact deadLetterLimit_pop q name
  | wait name timeoutMs =>
    obtain ⟨now, waited | waited⟩ := wait_cases q name timeoutMs
    · simp only [perform, waited]
      exact deadLetterLimit_pop _ name
    · simp [perform, waited]
  | ack id =>
    cases acked : q.ack id with
    | error e => simp [perform, acked]
    | ok q' =>
      obtain ⟨job, -, -, rfl⟩ := ack_eq_ok acked
      simp [perform, acked]
  | fail id error =>
    cases failed : q.fail id error with
    | error e => simp [perform, failed]
    | ok result =>
      obtain ⟨d, q'⟩ := result
      obtain ⟨job, -, -, ⟨-, -, rfl⟩ | ⟨-, -, rfl⟩⟩ := fail_eq_ok failed <;> simp [perform, failed]
  | elapse ms => rfl

/-- A request leaves the dead letters alone, or adds the job it parks and
drops the oldest beyond the limit. -/
theorem letterIds_perform (q : MemoryQueue) (call : QueueCall) {log : List (String × String)}
    (kept : q.letterIds = keepLast q.deadLetterLimit log) :
    (q.perform call).letterIds = keepLast q.deadLetterLimit (log ++ (q.events call).filterMap JobEvent.deadLetter?) := by
  cases call with
  | push job =>
    have events : (q.events (.push job)).filterMap JobEvent.deadLetter? = [] := by
      simp only [events]; split <;> rfl
    rw [events, List.append_nil, ← kept]
    simp [perform, letterIds, deadLetters_push]
  | pop name => simpa [perform, events, letterIds, deadLetters_pop] using kept
  | wait name timeoutMs =>
    obtain ⟨now, waited | waited⟩ := wait_cases q name timeoutMs
    · simpa [perform, events, letterIds, waited, deadLetters_pop] using kept
    · simpa [perform, events, letterIds, waited] using kept
  | ack id =>
    cases acked : q.ack id with
    | error e => simpa [perform, events, acked] using kept
    | ok q' =>
      obtain ⟨job, -, -, rfl⟩ := ack_eq_ok acked
      simpa [perform, events, acked, letterIds, JobEvent.deadLetter?, List.filterMap_cons] using kept
  | fail id error =>
    cases failed : q.fail id error with
    | error e => simpa [perform, events, failed] using kept
    | ok result =>
      obtain ⟨d, q'⟩ := result
      obtain ⟨job, -, rfl, ⟨-, rfl, rfl⟩ | ⟨-, rfl, rfl⟩⟩ := fail_eq_ok failed
      · simpa [perform, events, failed, letterIds] using kept
      · simp only [perform, events, failed, letterIds, List.filterMap_cons, JobEvent.deadLetter?,
          List.filterMap_nil]
        rw [map_keepLast, List.map_append, ← letterIds, kept, keepLast_keepLast_append]
        rfl
  | elapse ms => simpa [perform, events, letterIds] using kept

/-! ## Runs -/

/-- Books that balance for a first request and for the rest balance for the
whole run. -/
theorem books_append {a₁ a₂ k₁ k₂ d₁ d₂ l₀ l₁ l₂ : Multiset String}
    (first : a₁ + l₀ = l₁ + k₁ + d₁) (rest : a₂ + l₁ = l₂ + k₂ + d₂) :
    a₁ + a₂ + l₀ = l₂ + (k₁ + k₂) + (d₁ + d₂) :=
  calc a₁ + a₂ + l₀ = a₂ + (a₁ + l₀) := by abel
    _ = a₂ + (l₁ + k₁ + d₁) := by rw [first]
    _ = a₂ + l₁ + k₁ + d₁ := by abel
    _ = l₂ + k₂ + d₂ + k₁ + d₁ := by rw [rest]
    _ = l₂ + (k₁ + k₂) + (d₁ + d₂) := by abel

/-- Over any sequence of requests the queue stays well-formed and the books
balance: the ids pushes took in, with those held at the start, are those
held at the end with those acknowledged and those dead-lettered. -/
theorem Conserving.replay {q : MemoryQueue} (c : q.Conserving) (calls : List QueueCall) :
    (q.replay calls).Conserving ∧
      (↑((q.history calls).filterMap JobEvent.acceptedId?) : Multiset String) + q.live =
        (q.replay calls).live + ↑((q.history calls).filterMap JobEvent.acknowledgedId?) +
          ↑(((q.history calls).filterMap JobEvent.deadLetter?).map Prod.fst) := by
  induction calls generalizing q with
  | nil => simpa [MemoryQueue.replay, history] using c
  | cons call rest ih =>
    obtain ⟨kept, books⟩ := c.perform call
    obtain ⟨kept', books'⟩ := ih kept
    refine ⟨kept', ?_⟩
    simp only [history, MemoryQueue.replay, List.filterMap_append, List.map_append, ← Multiset.coe_add]
    exact books_append books books'

theorem letterIds_replay (q : MemoryQueue) (calls : List QueueCall) {log : List (String × String)}
    (kept : q.letterIds = keepLast q.deadLetterLimit log) :
    (q.replay calls).letterIds =
      keepLast q.deadLetterLimit (log ++ (q.history calls).filterMap JobEvent.deadLetter?) := by
  induction calls generalizing q log with
  | nil => simpa [replay, history] using kept
  | cons call rest ih =>
    have first := letterIds_perform q call kept
    rw [← deadLetterLimit_perform q call] at first
    have := ih (q.perform call) first
    rw [deadLetterLimit_perform] at this
    simpa [replay, history, List.filterMap_append] using this

/-! ## From the first request on -/

/-- A queue of any configuration with no job yet is well-formed. -/
theorem conserving_empty (cfg : MemoryQueue) :
    ({ cfg with queues := [], reserved := [], deadLetters := [] } : MemoryQueue).Conserving :=
  ⟨by simp, by simp, by simp [live, queuedIds, reservedIds, queuedEntries]⟩

/-- The in-memory queue conserves its jobs. From a queue of any configuration
and clock with no job, after any requests: no job id is held twice, queued
or reserved; every queued entry sits on its job's own queue; every id a push
took is held, acknowledged or dead-lettered, as many times as pushes took
it; the dead letters are the last `deadLetterLimit` of the jobs parked, in
the order they were parked; a push of a held id changes nothing; and an
acknowledgement or failure of an id not reserved is refused. -/
theorem replay_conserves_jobs (cfg : MemoryQueue) (calls : List QueueCall) :
    let q := ({ cfg with queues := [], reserved := [], deadLetters := [] } : MemoryQueue).replay calls
    let events := ({ cfg with queues := [], reserved := [], deadLetters := [] } : MemoryQueue).history calls
    (q.queuedIds ++ q.reservedIds).Nodup ∧
      (∀ p ∈ q.queues, ∀ e ∈ p.2, e.job.queue = p.1) ∧
      (↑(events.filterMap JobEvent.acceptedId?) : Multiset String) =
        ↑q.queuedIds + ↑q.reservedIds + ↑(events.filterMap JobEvent.acknowledgedId?) +
          ↑((events.filterMap JobEvent.deadLetter?).map Prod.fst) ∧
      q.deadLetters.map (fun d => (d.1.id, d.2)) =
        keepLast cfg.deadLetterLimit (events.filterMap JobEvent.deadLetter?) ∧
      (∀ job : QueuedJob, job.id ∈ q.queuedIds ∨ job.id ∈ q.reservedIds → q.push job = q) ∧
      (∀ id error : String, id ∉ q.reservedIds →
        q.ack id = .error (.notReserved id) ∧ q.fail id error = .error (.notReserved id)) := by
  intro q events
  obtain ⟨kept, books⟩ := (conserving_empty cfg).replay calls
  have letters := @letterIds_replay { cfg with queues := [], reserved := [], deadLetters := [] } calls []
    (by simp [letterIds, keepLast])
  refine ⟨?_, kept.ownQueue, ?_, ?_, ?_, ?_⟩
  · have distinct := kept.distinctIds
    rwa [live, Multiset.coe_add, Multiset.coe_nodup] at distinct
  · -- the queue held nothing at the start
    simpa [live, queuedIds, reservedIds, queuedEntries] using books
  · simpa [letterIds] using letters
  · intro job held
    exact push_of_mem_live (by simpa [live] using held)
  · intro id error absent
    exact ⟨(ack_eq_error_iff q id).2 absent, (fail_eq_error_iff q id error).2 absent⟩

end MemoryQueue

end ReportExport
