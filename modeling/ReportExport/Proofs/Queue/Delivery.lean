import ReportExport.Proofs.Queue.Conservation

/-!
# Delivering and retrying a job

A job pushed with no failed attempt is delivered, by a pop or a wait, at most
`m = max maxAttempts 1` times. This module follows one such job through any
requests made after its push:

* a named queue is a list in the order its jobs were put on it: `enqueue`
  appends at the back (`entries_enqueue_self`), and a pop takes the first
  visible entry and leaves the others in their order (`pop_cases`);
* `Stage` says where the job stands after `d` deliveries of which `f` failed:
  queued, or reserved, carrying `f` attempts while `f < m`, or settled, and in
  every case delivered at most `m` times. Each request keeps it
  (`Stage.perform`), so every run does (`Stage.replay`);
* a delivery of the job carries its failures so far, and the next failure is
  the `(f + 1)`-th: while `f + 1 < m` the job goes back at the back of its
  queue after the backoff with `f + 1` attempts, and when `f + 1 = m` it is
  parked among the dead letters with `m` attempts, the oldest letters beyond
  the limit dropped (`Stage.fail_eq`).

The job counts its attempts in 32 bits. Since `m` is itself such a count, a
job pushed with none never reaches the count's wrap: every count it carries
is at most `m` and kept exactly (`toNat_toUInt32_of_le`).

`job_delivered_at_most_max_attempts` gathers these for a job pushed on a queue
reached from one with no job.
-/

namespace ReportExport

namespace MemoryQueue

/-! ## Queue order -/

/-- Replacing the entries of one named queue leaves every other named queue
as it was. -/
theorem entries_setEntries (q : MemoryQueue) (name name' : String) (es : List QueueEntry) :
    (q.setEntries name es).entries name' = if name' = name then es else q.entries name' := by
  unfold setEntries entries
  split
  · rename_i present
    -- the replacement keeps every name, so the search finds the same queue
    have keeps : ((fun e : String × List QueueEntry => e.1 == name') ∘
        fun e => if e.1 == name then (name, es) else e) = fun e => e.1 == name' := by
      funext e
      by_cases h : e.1 = name <;> simp [h]
    rw [List.find?_map, keeps]
    cases found : q.queues.find? (·.1 == name') with
    | none =>
      have absent : name' ≠ name := by
        rintro rfl
        obtain ⟨p, hp, named⟩ := List.any_eq_true.1 present
        exact List.find?_eq_none.1 found p hp named
      simp [absent]
    | some p =>
      have named : p.1 = name' := by simpa using List.find?_some found
      by_cases same : name' = name <;> simp [named, same]
  · rename_i absent
    have missing : q.queues.find? (·.1 == name) = none := by
      rw [List.find?_eq_none]
      intro p hp named
      exact absent (List.any_eq_true.2 ⟨p, hp, named⟩)
    by_cases same : name' = name
    · subst same
      simp [List.find?_append, missing]
    · have last : [(name, es)].find? (·.1 == name') = none := by simp [Ne.symm same]
      simp [List.find?_append, last, same]

/-- Enqueueing puts the job at the back of its own queue. -/
theorem entries_enqueue_self (q : MemoryQueue) (job : QueuedJob) (visibleAt : Nat) :
    (q.enqueue job visibleAt).entries job.queue = q.entries job.queue ++ [⟨job, visibleAt⟩] := by
  rw [enqueue, entries_setEntries, if_pos rfl]

theorem entries_enqueue_of_ne (q : MemoryQueue) (job : QueuedJob) (visibleAt : Nat) {name : String}
    (other : name ≠ job.queue) : (q.enqueue job visibleAt).entries name = q.entries name := by
  rw [enqueue, entries_setEntries, if_neg other]

/-- A pop reserves the first entry of its queue that is visible now, in queue
order, and leaves the other entries in their order; when no entry is
visible it changes nothing. -/
theorem pop_cases (q : MemoryQueue) (name : String) :
    ((∀ e ∈ q.entries name, q.now < e.availableAt) ∧ q.pop name = (none, q)) ∨
      ∃ before e after, q.entries name = before ++ e :: after ∧ (∀ b ∈ before, q.now < b.availableAt) ∧
        e.availableAt ≤ q.now ∧
        q.pop name = (some e.job, { q.setEntries name (before ++ after) with
          reserved := q.reserved.filter (·.id != e.job.id) ++ [e.job] }) := by
  unfold pop
  split
  · rename_i none
    refine .inl ⟨fun e he => ?_, rfl⟩
    simpa using removeFirst_eq_none none e he
  · rename_i e rest found
    obtain ⟨before, after, entries, skipped, visible, rfl⟩ := removeFirst_eq_some found
    refine .inr ⟨before, e, after, entries, fun b hb => ?_, by simpa using visible, by simp [reserved_setEntries]⟩
    simpa using skipped b hb

/-! ## What a request tells of jobs -/

/-- The job a request delivered: the one a pop or a wait reserved. -/
def delivery (q : MemoryQueue) : QueueCall → Option QueuedJob
  | .pop name => (q.pop name).1
  | .wait name timeoutMs => (q.wait name timeoutMs).1
  | _ => none

/-- The failure a request reported: the id the queue took it for, and what
became of the job. -/
def failure (q : MemoryQueue) : QueueCall → Option (String × FailureDisposition)
  | .fail id error =>
    match q.fail id error with
    | .ok (d, _) => some (id, d)
    | .error _ => none
  | _ => none

/-- The jobs delivered over a sequence of requests, in order. -/
def deliveries (q : MemoryQueue) : List QueueCall → List QueuedJob
  | [] => []
  | c :: cs => (q.delivery c).toList ++ (q.perform c).deliveries cs

/-- The failures reported over a sequence of requests, in order. -/
def failures (q : MemoryQueue) : List QueueCall → List (String × FailureDisposition)
  | [] => []
  | c :: cs => (q.failure c).toList ++ (q.perform c).failures cs

/-! ## The settings a request keeps -/

/-- The policy of a queue: its attempts, backoff and dead-letter limit. -/
def policy (q : MemoryQueue) : UInt32 × Nat × Nat := (q.maxAttempts, q.backoffMs, q.deadLetterLimit)

@[simp] theorem policy_setEntries (q : MemoryQueue) (name : String) (es : List QueueEntry) :
    (q.setEntries name es).policy = q.policy := by
  unfold setEntries; split <;> rfl

@[simp] theorem policy_enqueue (q : MemoryQueue) (job : QueuedJob) (visibleAt : Nat) :
    (q.enqueue job visibleAt).policy = q.policy := by
  simp [enqueue]

/-- A wait is a pop at a moment no earlier than the present, or only the
clock moving. -/
theorem wait_eq (q : MemoryQueue) (name : String) (timeoutMs : Nat) :
    ∃ now, q.wait name timeoutMs = ({ q with now } : MemoryQueue).pop name ∨
      q.wait name timeoutMs = (none, { q with now }) := by
  unfold wait
  rcases popped : q.pop name with ⟨_ | job, q₁⟩
  · obtain rfl := pop_of_none popped
    simp only
    split
    · split
      · exact ⟨_, .inl rfl⟩
      · exact ⟨_, .inr rfl⟩
    · exact ⟨_, .inr rfl⟩
  · exact ⟨q.now, .inl popped.symm⟩

theorem policy_pop (q : MemoryQueue) (name : String) : (q.pop name).2.policy = q.policy := by
  rcases pop_cases q name with ⟨-, popped⟩ | ⟨before, e, after, -, -, -, popped⟩
  · rw [popped]
  · rw [popped]
    exact policy_setEntries q name (before ++ after)

/-- No request changes the policy. -/
theorem policy_perform (q : MemoryQueue) (call : QueueCall) : (q.perform call).policy = q.policy := by
  cases call with
  | push job =>
    show (q.push job).policy = q.policy
    unfold push
    split
    · rfl
    · exact policy_enqueue q job q.now
  | pop name => exact policy_pop q name
  | wait name timeoutMs =>
    obtain ⟨now, waited | waited⟩ := wait_eq q name timeoutMs
    · simp only [perform, waited]
      exact policy_pop _ name
    · simp only [perform, waited]
      rfl
  | ack id =>
    cases acked : q.ack id with
    | error e => simp [perform, acked]
    | ok q' =>
      obtain ⟨job, -, -, rfl⟩ := ack_eq_ok acked
      simp only [perform, acked]
      rfl
  | fail id error =>
    cases failed : q.fail id error with
    | error e => simp [perform, failed]
    | ok result =>
      obtain ⟨d, q'⟩ := result
      obtain ⟨job, -, -, ⟨-, -, rfl⟩ | ⟨-, -, rfl⟩⟩ := fail_eq_ok failed <;> simp only [perform, failed]
      · exact policy_enqueue _ _ _
      · rfl
  | elapse ms => rfl

theorem policy_replay (q : MemoryQueue) (calls : List QueueCall) : (q.replay calls).policy = q.policy := by
  induction calls generalizing q with
  | nil => rfl
  | cons call rest ih => rw [replay, ih, policy_perform]

/-! ## Distinct ids -/

section Distinct

variable {q : MemoryQueue} (c : q.Conserving)
include c

theorem Conserving.queued_eq {e e' : QueueEntry} (he : e ∈ q.queuedEntries) (he' : e' ∈ q.queuedEntries)
    (same : e.job.id = e'.job.id) : e = e' := by
  have distinct := c.distinctIds
  rw [live, Multiset.nodup_add, Multiset.coe_nodup, Multiset.coe_nodup, queuedIds] at distinct
  exact List.inj_on_of_nodup_map distinct.1 he he' same

theorem Conserving.reserved_eq {a b : QueuedJob} (ha : a ∈ q.reserved) (hb : b ∈ q.reserved)
    (same : a.id = b.id) : a = b := by
  have distinct := c.distinctIds
  rw [live, Multiset.nodup_add, Multiset.coe_nodup, Multiset.coe_nodup] at distinct
  exact List.inj_on_of_nodup_map distinct.2.1 ha hb same

/-- A queued job is not reserved. -/
theorem Conserving.not_reserved {e : QueueEntry} (he : e ∈ q.queuedEntries) : e.job.id ∉ q.reservedIds := by
  have distinct := c.distinctIds
  rw [live, Multiset.nodup_add] at distinct
  exact Multiset.disjoint_left.1 distinct.2.2 (Multiset.mem_coe.2 (List.mem_map_of_mem he))

end Distinct

theorem mem_live_of_queued {q : MemoryQueue} {e : QueueEntry} (he : e ∈ q.queuedEntries) : e.job.id ∈ q.live :=
  Multiset.mem_add.2 (.inl (Multiset.mem_coe.2 (List.mem_map_of_mem he)))

theorem mem_live_of_reserved {q : MemoryQueue} {job : QueuedJob} (held : job ∈ q.reserved) : job.id ∈ q.live :=
  Multiset.mem_add.2 (.inr (Multiset.mem_coe.2 (List.mem_map_of_mem held)))

theorem mem_queuedEntries {q : MemoryQueue} {name : String} {e : QueueEntry} (he : e ∈ q.entries name) :
    e ∈ q.queuedEntries := by
  unfold entries at he
  unfold queuedEntries
  cases found : q.queues.find? (·.1 == name) with
  | none => simp [found] at he
  | some p =>
    simp only [found, Option.map_some, Option.getD_some] at he
    exact List.mem_flatMap.2 ⟨p, List.mem_of_find?_eq_some found, he⟩

/-- Taking an entry out of a named queue takes it out of the queued entries. -/
theorem queuedEntries_taken {q : MemoryQueue} (distinct : (q.queues.map (·.1)).Nodup) {name : String}
    {before after : List QueueEntry} {e : QueueEntry} (entries : q.entries name = before ++ e :: after) :
    (↑q.queuedEntries : Multiset QueueEntry) = e ::ₘ ↑(q.setEntries name (before ++ after)).queuedEntries := by
  have replaced := queuedEntries_setEntries name (before ++ after) q distinct
  rw [entries, Multiset.coe_eq_coe.2 List.perm_middle, ← Multiset.cons_coe, Multiset.add_cons,
    ← Multiset.cons_add] at replaced
  exact (add_right_cancel replaced).symm

/-! ## Counting attempts -/

/-- A count no larger than a 32-bit count is kept exactly by the counter. -/
theorem toNat_toUInt32_of_le {f : Nat} {a : UInt32} (le : f ≤ a.toNat) : f.toUInt32.toNat = f :=
  UInt32.toNat_ofNat_of_lt' (Nat.lt_of_le_of_lt le (UInt32.toNat_lt a))

/-- One more failure on the counter is the count of one more. -/
theorem toUInt32_succ (f : Nat) : f.toUInt32 + 1 = (f + 1).toUInt32 :=
  (UInt32.ofNat_add f 1).symm

/-- The deliveries a queue allows: its setting, and one when that is zero. -/
theorem toNat_max_one (a : UInt32) : (max a 1).toNat = max a.toNat 1 :=
  UInt32.toNat_max a 1

/-- One more failure of a job with fewer than the allowed `m` is counted
exactly. -/
theorem toNat_succ_of_lt {q : MemoryQueue} {f m : Nat} (bound : (max q.maxAttempts 1).toNat = m) (left : f < m) :
    (f.toUInt32 + 1).toNat = f + 1 := by
  rw [toUInt32_succ]
  exact toNat_toUInt32_of_le (a := max q.maxAttempts 1) (by omega)

/-! ## Where one job stands -/

/-- Where the job `j` stands after `d` deliveries of which `f` failed, for a
bound `m` on its deliveries: queued with `f` attempts after `f` deliveries,
or reserved with `f` attempts after `f + 1`, while `f < m`; or settled
(acknowledged or parked) and no longer held, after at most `m` deliveries. -/
inductive Stage (q : MemoryQueue) (j : QueuedJob) (m : Nat) : Nat → Nat → Prop where
  | queued {f : Nat} (e : QueueEntry) (held : e ∈ q.queuedEntries)
      (carried : e.job = { j with attempts := f.toUInt32 }) (left : f < m) : Stage q j m f f
  | reserved {f : Nat} (held : { j with attempts := f.toUInt32 } ∈ q.reserved) (left : f < m) :
      Stage q j m (f + 1) f
  | settled {d f : Nat} (gone : j.id ∉ q.live) (bound : d ≤ m) : Stage q j m d f

section Stage

variable {q : MemoryQueue} {j : QueuedJob} {m d f : Nat}

/-- The job is delivered at most `m` times. -/
theorem Stage.delivered_le (stage : q.Stage j m d f) : d ≤ m := by
  cases stage with
  | queued e held carried left => exact left.le
  | reserved held left => exact left
  | settled gone bound => exact bound

/-- A queued entry of the job's id is the job with its `f` attempts. -/
theorem Stage.queued_job (c : q.Conserving) (stage : q.Stage j m d f) {e : QueueEntry}
    (he : e ∈ q.queuedEntries) (named : e.job.id = j.id) :
    e.job = { j with attempts := f.toUInt32 } ∧ f < m ∧ d = f := by
  cases stage with
  | queued e' held carried left =>
    obtain rfl := c.queued_eq he held (by rw [named, carried])
    exact ⟨carried, left, rfl⟩
  | reserved held left =>
    exact absurd (List.mem_map_of_mem (f := (·.id)) held) (named ▸ c.not_reserved he)
  | settled gone bound => exact absurd (named ▸ mem_live_of_queued he) gone

/-- A reserved job of the job's id is the job with its `f` attempts. -/
theorem Stage.reserved_job (c : q.Conserving) (stage : q.Stage j m d f) {job : QueuedJob}
    (held : job ∈ q.reserved) (named : job.id = j.id) :
    job = { j with attempts := f.toUInt32 } ∧ f < m ∧ d = f + 1 := by
  cases stage with
  | queued e queued carried left =>
    have : e.job.id ∈ q.reservedIds := by
      rw [carried]
      exact named ▸ List.mem_map_of_mem held
    exact absurd this (c.not_reserved queued)
  | reserved held' left => exact ⟨c.reserved_eq held held' named, left, rfl⟩
  | settled gone bound => exact absurd (named ▸ mem_live_of_reserved held) gone

/-- Moving the clock moves no job. -/
theorem Stage.withNow (stage : q.Stage j m d f) (now : Nat) : ({ q with now } : MemoryQueue).Stage j m d f := by
  cases stage with
  | queued e held carried left => exact .queued e held carried left
  | reserved held left => exact .reserved held left
  | settled gone bound => exact .settled gone bound

/-! ## Each request keeps it -/

theorem Stage.push (c : q.Conserving) (stage : q.Stage j m d f) (job : QueuedJob)
    (once : job.id = j.id → job.id ∈ q.live) : (q.push job).Stage j m d f := by
  by_cases held : job.id ∈ q.live
  · rwa [push_of_mem_live held]
  have other : job.id ≠ j.id := fun same => held (once same)
  rw [push_of_not_mem_live held]
  cases stage with
  | queued e queued carried left =>
    refine .queued e ?_ carried left
    rw [← Multiset.mem_coe, queuedEntries_enqueue q job q.now c.distinctNames]
    exact Multiset.mem_cons_of_mem queued
  | reserved reserved left => exact .reserved (by simpa using reserved) left
  | settled gone bound =>
    refine .settled ?_ bound
    rw [live_enqueue q job q.now c.distinctNames, Multiset.mem_cons, not_or]
    exact ⟨Ne.symm other, gone⟩

theorem Stage.pop (c : q.Conserving) (stage : q.Stage j m d f) (name : String) :
    (q.pop name).2.Stage j m (d + ((q.pop name).1.toList.countP (·.id == j.id))) f := by
  have kept := (c.pop name).1
  rcases pop_cases q name with ⟨-, popped⟩ | ⟨before, e, after, entries, -, -, popped⟩
  · simpa [popped] using stage
  rw [popped] at kept ⊢
  have queued := queuedEntries_taken c.distinctNames entries
  have taken : e ∈ q.queuedEntries := by
    rw [← Multiset.mem_coe, queued]
    exact Multiset.mem_cons_self _ _
  by_cases same : e.job.id = j.id
  · -- the job itself is delivered, with the attempts it carries
    obtain ⟨carried, left, rfl⟩ := stage.queued_job c taken same
    simp only [Option.toList_some, List.countP_singleton, same, beq_self_eq_true, if_true]
    refine .reserved ?_ left
    simp [carried]
  · have skip : (e.job.id == j.id) = false := by simpa using same
    simp only [Option.toList_some, List.countP_singleton, skip, Bool.false_eq_true, if_false, Nat.add_zero]
    cases stage with
    | queued e' held carried left =>
      refine .queued e' ?_ carried left
      have : e' ≠ e := by
        rintro rfl
        exact same (by rw [carried])
      rw [← Multiset.mem_coe, queued] at held
      exact Multiset.mem_coe.1 ((Multiset.mem_cons.1 held).resolve_left this)
    | reserved held left =>
      refine .reserved ?_ left
      simp only [List.mem_append, List.mem_filter, bne_iff_ne, ne_eq]
      exact .inl ⟨held, fun h => same h.symm⟩
    | settled gone bound => exact .settled (kept ▸ gone) bound

theorem Stage.wait (c : q.Conserving) (stage : q.Stage j m d f) (name : String) (timeoutMs : Nat) :
    (q.wait name timeoutMs).2.Stage j m (d + ((q.wait name timeoutMs).1.toList.countP (·.id == j.id))) f := by
  obtain ⟨now, waited | waited⟩ := wait_eq q name timeoutMs
  · rw [waited]
    exact (stage.withNow now).pop (c.withNow now) name
  · rw [waited]
    exact stage.withNow now

theorem Stage.ack (c : q.Conserving) (stage : q.Stage j m d f) {id : String} {q' : MemoryQueue}
    (h : q.ack id = .ok q') : q'.Stage j m d f := by
  obtain ⟨taken, -⟩ := c.ack h
  obtain ⟨job, held, rfl, rfl⟩ := ack_eq_ok h
  have distinct := c.distinctIds
  rw [taken, Multiset.nodup_cons] at distinct
  cases stage with
  | queued e queued carried left => exact .queued e queued carried left
  | reserved reserved left =>
    by_cases same : job.id = j.id
    · -- the job is acknowledged: it is settled after `f + 1` deliveries
      exact .settled (same ▸ distinct.1) left
    · refine .reserved ?_ left
      simp only [List.mem_filter, bne_iff_ne, ne_eq]
      exact ⟨reserved, fun h => same h.symm⟩
  | settled gone bound =>
    refine .settled (fun h => gone ?_) bound
    rw [taken]
    exact Multiset.mem_cons_of_mem h

/-- A failure moves the job back to its queue or settles it when it is the
job's own, counting one more failure, and otherwise leaves the job where it
stands. -/
theorem Stage.fail (c : q.Conserving) (stage : q.Stage j m d f) (bound : (max q.maxAttempts 1).toNat = m)
    {id error : String} {disp : FailureDisposition} {q' : MemoryQueue} (h : q.fail id error = .ok (disp, q')) :
    q'.Stage j m d (f + if id = j.id then 1 else 0) := by
  obtain ⟨-, books⟩ := c.fail h
  obtain ⟨job, held, rfl, released | parked⟩ := fail_eq_ok h
  · obtain ⟨more, rfl, rfl⟩ := released
    rw [if_neg (by simp)] at books
    have distinct : (({ q with reserved := q.reserved.filter (·.id != job.id) } : MemoryQueue).queues.map (·.1)).Nodup :=
      c.distinctNames
    by_cases same : job.id = j.id
    · -- the job itself goes back on its queue with one attempt more
      obtain ⟨rfl, left, rfl⟩ := stage.reserved_job c held same
      rw [if_pos same]
      refine .queued ⟨{ j with attempts := f.toUInt32 + 1 }, q.now + q.backoffMs⟩ ?_ (by rw [toUInt32_succ]) ?_
      · rw [← Multiset.mem_coe, queuedEntries_enqueue _ _ _ distinct]
        exact Multiset.mem_cons_self _ _
      · -- released below the setting: one more failure, still below `m`
        simp only at more
        have below := UInt32.lt_iff_toNat_lt.1 more
        rw [toNat_succ_of_lt bound left] at below
        rw [← bound, toNat_max_one]
        omega
    · rw [if_neg same, Nat.add_zero]
      cases stage with
      | queued e queued carried left =>
        refine .queued e ?_ carried left
        rw [← Multiset.mem_coe, queuedEntries_enqueue _ _ _ distinct]
        exact Multiset.mem_cons_of_mem queued
      | reserved reserved left =>
        refine .reserved ?_ left
        simp only [reserved_enqueue, List.mem_filter, bne_iff_ne, ne_eq]
        exact ⟨reserved, fun h => same h.symm⟩
      | settled gone bound => exact .settled (books ▸ gone) bound
  · obtain ⟨exhausted, rfl, rfl⟩ := parked
    rw [if_pos rfl] at books
    have distinct := c.distinctIds
    rw [books, Multiset.nodup_cons] at distinct
    by_cases same : job.id = j.id
    · -- the job is parked: it is settled after `f + 1` deliveries
      obtain ⟨rfl, left, rfl⟩ := stage.reserved_job c held same
      exact .settled (same ▸ distinct.1) left
    · rw [if_neg same, Nat.add_zero]
      cases stage with
      | queued e queued carried left => exact .queued e queued carried left
      | reserved reserved left =>
        refine .reserved ?_ left
        simp only [List.mem_filter, bne_iff_ne, ne_eq]
        exact ⟨reserved, fun h => same h.symm⟩
      | settled gone bound =>
        refine .settled (fun h => gone ?_) bound
        rw [books]
        exact Multiset.mem_cons_of_mem h

/-- Each request keeps the stage, counting the deliveries and failures of the
job it reports, unless it is a push that takes the job's id in anew. -/
theorem Stage.perform (c : q.Conserving) (stage : q.Stage j m d f) (bound : (max q.maxAttempts 1).toNat = m)
    (call : QueueCall) (once : j.id ∉ (q.events call).filterMap JobEvent.acceptedId?) :
    (q.perform call).Stage j m (d + ((q.delivery call).toList.countP (·.id == j.id)))
      (f + ((q.failure call).toList.countP (·.1 == j.id))) := by
  cases call with
  | push job =>
    refine stage.push c job fun same => ?_
    by_contra fresh
    exact once (by rw [← same]; simp [events, fresh, JobEvent.acceptedId?])
  | pop name => simpa [MemoryQueue.perform, delivery, failure] using stage.pop c name
  | wait name timeoutMs => simpa [MemoryQueue.perform, delivery, failure] using stage.wait c name timeoutMs
  | ack id =>
    cases acked : q.ack id with
    | error e => simpa [MemoryQueue.perform, delivery, failure, acked] using stage
    | ok q' => simpa [MemoryQueue.perform, delivery, failure, acked] using stage.ack c acked
  | fail id error =>
    cases failed : q.fail id error with
    | error e => simpa [MemoryQueue.perform, delivery, failure, failed] using stage
    | ok result =>
      obtain ⟨disp, q'⟩ := result
      have next := stage.fail c bound failed
      by_cases same : id = j.id
      · subst same
        simpa [MemoryQueue.perform, delivery, failure, failed] using next
      · simpa [MemoryQueue.perform, delivery, failure, failed, same] using next
  | elapse ms => simpa [MemoryQueue.perform, delivery, failure] using stage.withNow (q.now + ms)

theorem maxAttempts_perform (q : MemoryQueue) (call : QueueCall) :
    (q.perform call).maxAttempts = q.maxAttempts :=
  congrArg Prod.fst (policy_perform q call)

/-- Over any requests that do not take the job's id in anew, the stage is
kept, counting the job's deliveries and failures. -/
theorem Stage.replay (c : q.Conserving) (stage : q.Stage j m d f) (bound : (max q.maxAttempts 1).toNat = m)
    (calls : List QueueCall) (once : j.id ∉ (q.history calls).filterMap JobEvent.acceptedId?) :
    (q.replay calls).Stage j m (d + (q.deliveries calls).countP (·.id == j.id))
      (f + (q.failures calls).countP (·.1 == j.id)) := by
  induction calls generalizing q d f with
  | nil => simpa [MemoryQueue.replay, deliveries, failures] using stage
  | cons call rest ih =>
    rw [history, List.filterMap_append, List.mem_append, not_or] at once
    have next := ih (c.perform call).1 (stage.perform c bound call once.1)
      (by rw [maxAttempts_perform, bound]) once.2
    simpa [MemoryQueue.replay, deliveries, failures, List.countP_append, Nat.add_assoc] using next

/-! ## What the next request does with the job -/

/-- The reservation of a reserved job is the one taken away under its id. -/
theorem Conserving.unreserve_of_mem {q : MemoryQueue} (c : q.Conserving) {job : QueuedJob} (held : job ∈ q.reserved) :
    q.unreserve job.id = some (job, { q with reserved := q.reserved.filter (·.id != job.id) }) := by
  have found : q.reserved.find? (·.id == job.id) = some job := by
    cases h : q.reserved.find? (·.id == job.id) with
    | none =>
      have := List.find?_eq_none.1 h job held
      simp at this
    | some other =>
      have named : other.id = job.id := by simpa using List.find?_some h
      rw [c.reserved_eq (List.mem_of_find?_eq_some h) held named]
  simp [unreserve, found]

/-- A pop that delivers the job delivers it with the failures it has had. -/
theorem Stage.pop_delivers (c : q.Conserving) (stage : q.Stage j m d f) (name : String) {job : QueuedJob}
    (h : (q.pop name).1 = some job) (named : job.id = j.id) : job = { j with attempts := f.toUInt32 } ∧ f < m := by
  rcases pop_cases q name with ⟨-, popped⟩ | ⟨before, e, after, entries, -, -, popped⟩
  · simp [popped] at h
  · rw [popped] at h
    obtain rfl := Option.some.inj h
    have listed : e ∈ q.entries name := by simp [entries]
    have taken : e ∈ q.queuedEntries := mem_queuedEntries listed
    obtain ⟨carried, left, -⟩ := stage.queued_job c taken named
    exact ⟨carried, left⟩

theorem Stage.wait_delivers (c : q.Conserving) (stage : q.Stage j m d f) (name : String) (timeoutMs : Nat)
    {job : QueuedJob} (h : (q.wait name timeoutMs).1 = some job) (named : job.id = j.id) :
    job = { j with attempts := f.toUInt32 } ∧ f < m := by
  obtain ⟨now, waited | waited⟩ := wait_eq q name timeoutMs
  · rw [waited] at h
    exact (stage.withNow now).pop_delivers (c.withNow now) name h named
  · simp [waited] at h

/-- The next failure of the reserved job is its `(f + 1)`-th: while fewer than
`m` failed it goes back at the back of its queue after the backoff with one
more attempt, and the `m`-th parks it with `m` attempts among the dead
letters, of which the last `deadLetterLimit` are kept. -/
theorem Stage.fail_eq (c : q.Conserving) (stage : q.Stage j m d f) (bound : (max q.maxAttempts 1).toNat = m)
    (held : j.id ∈ q.reservedIds) (error : String) :
    (f + 1 < m ∧ q.fail j.id error = .ok (.released (f + 1).toUInt32,
        ({ q with reserved := q.reserved.filter (·.id != j.id) } : MemoryQueue).enqueue
          { j with attempts := (f + 1).toUInt32 } (q.now + q.backoffMs))) ∨
      (f + 1 = m ∧ q.fail j.id error = .ok (.deadLettered,
        { q with reserved := q.reserved.filter (·.id != j.id),
                 deadLetters := keepLast q.deadLetterLimit
                   (q.deadLetters ++ [({ j with attempts := max q.maxAttempts 1 }, error)]) })) := by
  obtain ⟨job, mem, named⟩ := List.mem_map.1 held
  obtain ⟨rfl, left, -⟩ := stage.reserved_job c mem named
  have taken := c.unreserve_of_mem mem
  simp only at taken
  -- the count after this failure is at most `m`, so the counter keeps it
  have allowed : m = max q.maxAttempts.toNat 1 := by rw [← bound, toNat_max_one]
  have fits := toNat_succ_of_lt bound left
  by_cases more : f.toUInt32 + 1 < q.maxAttempts
  · have below : f + 1 < m := by
      have := UInt32.lt_iff_toNat_lt.1 more
      omega
    refine .inl ⟨below, ?_⟩
    simp only [MemoryQueue.fail, taken]
    rw [if_pos more, toUInt32_succ]
  · have last : f + 1 = m := by
      have := mt UInt32.lt_iff_toNat_lt.2 more
      omega
    have stored : f.toUInt32 + 1 = max q.maxAttempts 1 := UInt32.toNat_inj.1 (by omega)
    refine .inr ⟨last, ?_⟩
    simp only [MemoryQueue.fail, taken]
    rw [if_neg more, stored]

end Stage

/-! ## The life of a pushed job -/

/-- What the queue does with a job `j` pushed with no failed attempt, once it
has been delivered `d` times and `f` of its deliveries have failed, on a queue
`q` that allows `m = max maxAttempts 1` deliveries with the backoff and
dead-letter limit of `cfg`. -/
structure RetryPolicy (cfg q : MemoryQueue) (j : QueuedJob) (d f : Nat) : Prop where
  /-- the job was delivered at most `m` times -/
  delivered_le : d ≤ (max cfg.maxAttempts 1).toNat
  /-- a pop that delivers it delivers it with its `f` failures counted, fewer
  than `m` -/
  popped : ∀ name job, (q.pop name).1 = some job → job.id = j.id →
    job = { j with attempts := f.toUInt32 } ∧ f < (max cfg.maxAttempts 1).toNat
  /-- and so does a wait -/
  waited : ∀ name timeoutMs job, (q.wait name timeoutMs).1 = some job → job.id = j.id →
    job = { j with attempts := f.toUInt32 } ∧ f < (max cfg.maxAttempts 1).toNat
  /-- its next failure, the `(f + 1)`-th, releases it to the back of its queue
  after the backoff with `f + 1` attempts while `f + 1 < m`, and at `f + 1 = m`
  parks it with `m` attempts after the dead letters, keeping the last
  `deadLetterLimit` of them -/
  failed : ∀ error, j.id ∈ q.reservedIds →
    (f + 1 < (max cfg.maxAttempts 1).toNat ∧
      ∃ q', q.fail j.id error = .ok (.released (f + 1).toUInt32, q') ∧
        q' = ({ q with reserved := q.reserved.filter (·.id != j.id) } : MemoryQueue).enqueue
          { j with attempts := (f + 1).toUInt32 } (q.now + cfg.backoffMs) ∧
        q'.entries j.queue = q.entries j.queue ++ [⟨{ j with attempts := (f + 1).toUInt32 }, q.now + cfg.backoffMs⟩]) ∨
    (f + 1 = (max cfg.maxAttempts 1).toNat ∧
      q.fail j.id error = .ok (.deadLettered,
        { q with reserved := q.reserved.filter (·.id != j.id),
                 deadLetters := keepLast cfg.deadLetterLimit
                   (q.deadLetters ++ [({ j with attempts := max cfg.maxAttempts 1 }, error)]) }))
  /-- a pop reserves the first entry of its queue, in the order they were
  put on it, that is visible now, and nothing when none is -/
  firstVisible : ∀ name, ((∀ e ∈ q.entries name, q.now < e.availableAt) ∧ q.pop name = (none, q)) ∨
    ∃ before e after, q.entries name = before ++ e :: after ∧ (∀ b ∈ before, q.now < b.availableAt) ∧
      e.availableAt ≤ q.now ∧
      q.pop name = (some e.job, { q.setEntries name (before ++ after) with
        reserved := q.reserved.filter (·.id != e.job.id) ++ [e.job] })

/-- The in-memory queue's delivery and retry policy. On a queue of any
configuration `cfg` that starts with no job, take a job `j` with no failed
attempt, pushed after any requests `pre` at a moment its id is not held, and
any requests `post` after the push that do not push its id anew. Then with
`m = max cfg.maxAttempts 1`, and `f` the failures of `j` in `post`: `j` was
delivered at most `m` times in `post`; the next delivery carries `f`
attempts; the next failure releases it with `f + 1` attempts to the back of
its queue after the backoff while `f + 1 < m`, and when `f + 1 = m` parks it
with `m` attempts, keeping the last `deadLetterLimit` dead letters; and a pop
takes the first visible entry of its queue. -/
theorem job_delivered_at_most_max_attempts (cfg : MemoryQueue) (pre post : List QueueCall) (j : QueuedJob)
    (firstTry : j.attempts = 0)
    (fresh : j.id ∉ (({ cfg with queues := [], reserved := [], deadLetters := [] } : MemoryQueue).replay pre).live)
    (once : j.id ∉ (((({ cfg with queues := [], reserved := [], deadLetters := [] } : MemoryQueue).replay pre).push j).history
      post).filterMap JobEvent.acceptedId?) :
    let pushed := (({ cfg with queues := [], reserved := [], deadLetters := [] } : MemoryQueue).replay pre).push j
    RetryPolicy cfg (pushed.replay post) j ((pushed.deliveries post).countP (·.id == j.id))
      ((pushed.failures post).countP (·.1 == j.id)) := by
  intro pushed
  set q₀ : MemoryQueue := { cfg with queues := [], reserved := [], deadLetters := [] }
  have c₁ : (q₀.replay pre).Conserving := ((conserving_empty cfg).replay pre).1
  have settings : (q₀.replay pre).policy = cfg.policy := policy_replay q₀ pre
  -- the push takes the job in: it is queued, as it came, with no failure
  have enqueued : pushed = (q₀.replay pre).enqueue j (q₀.replay pre).now := push_of_not_mem_live fresh
  have c₂ : pushed.Conserving := enqueued ▸ c₁.enqueue j _ fresh
  have start : pushed.Stage j (max cfg.maxAttempts 1).toNat 0 0 := by
    refine .queued ⟨j, (q₀.replay pre).now⟩ ?_ (by cases j; simp_all) (by rw [toNat_max_one]; omega)
    rw [enqueued, ← Multiset.mem_coe, queuedEntries_enqueue _ _ _ c₁.distinctNames]
    exact Multiset.mem_cons_self _ _
  have pushedPolicy : pushed.policy = cfg.policy := by
    rw [enqueued, policy_enqueue, settings]
  have bound : (max pushed.maxAttempts 1).toNat = (max cfg.maxAttempts 1).toNat := by
    rw [show pushed.maxAttempts = cfg.maxAttempts from congrArg Prod.fst pushedPolicy]
  have stage := start.replay c₂ bound post once
  simp only [Nat.zero_add] at stage
  set q := pushed.replay post
  have c : q.Conserving := (c₂.replay post).1
  have policy : q.policy = cfg.policy := by rw [policy_replay, pushedPolicy]
  simp only [MemoryQueue.policy, Prod.mk.injEq] at policy
  obtain ⟨attempts, backoff, limit⟩ := policy
  refine ⟨stage.delivered_le, fun name job h named => stage.pop_delivers c name h named,
    fun name timeoutMs job h named => stage.wait_delivers c name timeoutMs h named, fun error held => ?_,
    fun name => pop_cases q name⟩
  rcases stage.fail_eq c (by rw [attempts]) held error with ⟨more, released⟩ | ⟨last, parked⟩
  · have later : q.now + q.backoffMs = q.now + cfg.backoffMs := by rw [backoff]
    refine .inl ⟨more, _, released, by rw [later], ?_⟩
    rw [entries_enqueue_self, later]
    rfl
  · exact .inr ⟨last, by rw [parked, limit, attempts]⟩

/-- A job of a queue allowing two deliveries, delivered and failed once: it
is back on its queue with one attempt, and its next failure parks it. -/
theorem job_released_once_then_parked :
    let j : QueuedJob := { id := "job", queue := "default", payload := .null }
    let post := [QueueCall.pop "default", .fail "job" "boom"]
    let pushed := (({ create 2 0 with queues := [], reserved := [], deadLetters := [] } : MemoryQueue).replay []).push j
    j.attempts = 0 ∧
      j.id ∉ (({ create 2 0 with queues := [], reserved := [], deadLetters := [] } : MemoryQueue).replay []).live ∧
      j.id ∉ (pushed.history post).filterMap JobEvent.acceptedId? ∧
      RetryPolicy (create 2 0) (pushed.replay post) j ((pushed.deliveries post).countP (·.id == j.id))
        ((pushed.failures post).countP (·.1 == j.id)) :=
  ⟨rfl, by decide, by decide, job_delivered_at_most_max_attempts (create 2 0) [] _ _ rfl (by decide) (by decide)⟩

end MemoryQueue

end ReportExport
