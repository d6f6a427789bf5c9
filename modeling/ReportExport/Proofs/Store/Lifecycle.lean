import Mathlib
import ReportExport.Proofs.Store.Creation

/-!
# The lifecycle of an export record

The repository writes export records with six requests: creating a record,
the four changes of status (dispatch, start, complete, fail) and storing
progress. `Stores.createExport_spec`, `Stores.changeStatus_spec` and
`Stores.updateProgress_spec` say what each does to the records of a store;
this module follows a store through any sequence of them.

A change of status applies only to the record of its id whose status is
among the new status's predecessors, and reports whether there was one; a
request that reports `false`, or that the table refuses, leaves the records
as they were (`StoreRequest.Answers`). Every other record stays, so a record
only ever moves along an edge of the status graph, and a completed or failed
record, which no edge leaves, keeps its status, stamps, message and job
(`ExportRecord.Follows`). In every record the stamps agree with the status
(`ExportRecord.StampsAgree`). `records_follow_lifecycle` states all three of
every store reached from one that holds no record.
-/

namespace ReportExport

open Sql Store

/-- No status follows a finished one. -/
theorem ExportStatus.canTransitionTo_of_isFinished {s : ExportStatus} (finished : s.isFinished = true)
    (t : ExportStatus) : s.canTransitionTo t = false := by
  cases s <;> cases t <;> simp_all [isFinished, canTransitionTo, predecessors]

namespace ExportRecord

/-! ## Stamps and status -/

/-- The stamps of a record agree with its status: it has a completion time
exactly when completed, a failure time and a message exactly when failed, and
a start time whenever it is processing or completed. -/
structure StampsAgree (r : ExportRecord) : Prop where
  completed : r.completedAt.isSome ↔ r.status = .completed
  failed : r.failedAt.isSome ↔ r.status = .failed
  message : r.errorMessage.isSome ↔ r.status = .failed
  started : r.status = .processing ∨ r.status = .completed → r.startedAt.isSome

/-- A change of status that the record's status allows keeps its stamps in
agreement: each change stamps what its target needs, and the statuses it
leaves from have no completion, failure or message yet. -/
theorem StampsAgree.changed {r : ExportRecord} (agree : r.StampsAgree) (now : Int) {c : StatusChange}
    (allowed : r.status.canTransitionTo c.target = true) : (r.changed now c).StampsAgree := by
  obtain ⟨completed, failed, message, started⟩ := agree
  have before : r.status ∈ c.target.predecessors := by
    simpa [ExportStatus.canTransitionTo] using allowed
  cases c with
  | dispatch jobId =>
    have pending : r.status = .pending := by simpa [StatusChange.target, ExportStatus.predecessors] using before
    constructor <;> simp [ExportRecord.changed, completed, failed, message, pending]
  | start =>
    have dispatched : r.status = .dispatched := by
      simpa [StatusChange.target, ExportStatus.predecessors] using before
    constructor <;> simp [ExportRecord.changed, completed, failed, message, dispatched]
  | complete =>
    have processing : r.status = .processing := by
      simpa [StatusChange.target, ExportStatus.predecessors] using before
    constructor <;> simp [ExportRecord.changed, failed, message, processing, started]
  | fail text =>
    have open_ : r.status ≠ .completed := by
      intro done
      simp [StatusChange.target, ExportStatus.predecessors, done] at before
    constructor <;> simp [ExportRecord.changed, completed, open_]

theorem StampsAgree.progressed {r : ExportRecord} (agree : r.StampsAgree) (now rows : Int) (total : Option Int) :
    (r.progressed now rows total).StampsAgree :=
  ⟨agree.completed, agree.failed, agree.message, agree.started⟩

/-- A new record is Pending with no stamps. -/
theorem stampsAgree_record (n : NewExport) (id now : Int) : (n.record id now).StampsAgree := by
  constructor <;> simp [NewExport.record]

/-! ## How a record may move -/

/-- How a record may stand after a request: under its id, in its status or
one its status may move to; once finished, with its status, stamps, message
and job as they were. -/
def Follows (r r' : ExportRecord) : Prop :=
  r'.id = r.id ∧ (r'.status = r.status ∨ r.status.canTransitionTo r'.status = true) ∧
    (r.status.isFinished = true → r'.status = r.status ∧ r'.startedAt = r.startedAt ∧
      r'.completedAt = r.completedAt ∧ r'.failedAt = r.failedAt ∧ r'.errorMessage = r.errorMessage ∧
      r'.jobId = r.jobId)

theorem Follows.refl (r : ExportRecord) : r.Follows r :=
  ⟨rfl, .inl rfl, fun _ => ⟨rfl, rfl, rfl, rfl, rfl, rfl⟩⟩

/-- A change of status moves a record along an edge, and never a finished one. -/
theorem follows_changed (r : ExportRecord) (now : Int) {c : StatusChange}
    (allowed : r.status.canTransitionTo c.target = true) : r.Follows (r.changed now c) := by
  refine ⟨r.id_changed now c, .inr (by rw [r.status_changed]; exact allowed), fun finished => ?_⟩
  rw [ExportStatus.canTransitionTo_of_isFinished finished] at allowed
  cases allowed

theorem follows_progressed (r : ExportRecord) (now rows : Int) (total : Option Int) :
    r.Follows (r.progressed now rows total) :=
  ⟨rfl, .inl rfl, fun _ => ⟨rfl, rfl, rfl, rfl, rfl, rfl⟩⟩

end ExportRecord

/-- How a request may change the records of a store: each record stands as
`Follows` allows, and new Pending records come after them. -/
def Evolves (recs recs' : List ExportRecord) : Prop :=
  ∃ moved added, recs' = moved ++ added ∧ List.Forall₂ ExportRecord.Follows recs moved ∧
    ∀ r ∈ added, r.status = .pending

theorem Evolves.refl (recs : List ExportRecord) : Evolves recs recs :=
  ⟨recs, [], by simp, List.forall₂_same.mpr fun r _ => ExportRecord.Follows.refl r, by simp⟩

theorem Evolves.map {recs : List ExportRecord} {f : ExportRecord → ExportRecord}
    (each : ∀ r ∈ recs, r.Follows (f r)) : Evolves recs (recs.map f) :=
  ⟨recs.map f, [], by simp, List.forall₂_map_right_iff.mpr (List.forall₂_same.mpr each), by simp⟩

theorem Evolves.append_pending (recs : List ExportRecord) {r : ExportRecord} (pending : r.status = .pending) :
    Evolves recs (recs ++ [r]) :=
  ⟨recs, [r], rfl, List.forall₂_same.mpr fun q _ => ExportRecord.Follows.refl q, by simp [pending]⟩

/-! ## Retry links -/

/-- Every record that names a record it retries names one whose id is at most
its own. -/
def LinksBack (recs : List ExportRecord) : Prop :=
  ∀ r ∈ recs, ∀ p, r.retriedFromId = some p → p ≤ r.id

/-- The stored record of id `a` names id `b` as the record it retries. -/
def RetriesFrom (recs : List ExportRecord) (a b : Int) : Prop :=
  ∃ r ∈ recs, r.id = a ∧ r.retriedFromId = some b

namespace LinksBack

variable {recs : List ExportRecord}

/-- Rewriting records under their ids and links keeps the links. -/
theorem map (links : LinksBack recs) {f : ExportRecord → ExportRecord}
    (keeps : ∀ r, (f r).id = r.id ∧ (f r).retriedFromId = r.retriedFromId) : LinksBack (recs.map f) := by
  intro r' mem p named
  obtain ⟨r, old, rfl⟩ := List.mem_map.1 mem
  rw [(keeps r).1]
  exact links r old p ((keeps r).2 ▸ named)

/-- A record created past the last one names a stored record, itself
included, and no stored id is past its own. -/
theorem created (links : LinksBack recs) (ascending : (recs.map (·.id)).Pairwise (· < ·)) {n : NewExport}
    {now : Int} (parent : (n.record (lastId recs + 1) now).parentIn (recs ++ [n.record (lastId recs + 1) now]) = true) :
    LinksBack (recs ++ [n.record (lastId recs + 1) now]) := by
  intro r mem p named
  rcases List.mem_append.1 mem with old | new
  · exact links r old p named
  · rw [List.mem_singleton.1 new] at named ⊢
    obtain ⟨q, stored, rfl⟩ := (ExportRecord.parentIn_iff _ _).1 parent p named
    rcases List.mem_append.1 stored with old | new
    · exact (id_le_lastId ascending q old).trans (Int.le_add_one (Int.le_refl _))
    · rw [List.mem_singleton.1 new]

/-- Following retry links never raises the id. -/
theorem le_of_reflTransGen (links : LinksBack recs) {a b : Int}
    (chain : Relation.ReflTransGen (RetriesFrom recs) a b) : b ≤ a := by
  induction chain with
  | refl => exact Int.le_refl a
  | tail _ link below =>
    obtain ⟨r, stored, rfl, named⟩ := link
    exact (links r stored _ named).trans below

/-- A chain of retry links that comes back to where it started is a record
naming itself: the links form no other cycle. -/
theorem cycle_self (links : LinksBack recs) {a : Int} (cycle : Relation.TransGen (RetriesFrom recs) a a) :
    RetriesFrom recs a a := by
  obtain ⟨b, link, back⟩ := Relation.TransGen.head'_iff.1 cycle
  -- the first link goes down to `b`, the rest of the chain back up to `a`
  have down : b ≤ a := by
    obtain ⟨r, stored, rfl, named⟩ := link
    exact links r stored b named
  have up : a ≤ b := links.le_of_reflTransGen back
  rwa [Int.le_antisymm down up] at link

end LinksBack

/-! ## Requests -/

/-- A request of the repository that writes, or the passing of time. -/
inductive StoreRequest where
  | create (n : NewExport)
  | change (id : Int) (c : StatusChange)
  | progress (id rows : Int) (total : Option Int)
  | tick (now : Int)

namespace StoreRequest

/-- The store after a request. -/
def perform (s : RecordStore) : StoreRequest → RecordStore
  | .create n => (s.createExport n).1
  | .change id c => (s.changeStatus id c).1
  | .progress id rows total => (s.updateProgress id rows total).1
  | .tick now => { s with clock := now }

/-- What a request reports on a store holding `recs`, which then holds
`recs'`: a creation adds the new record past the last, or fails and adds
nothing; a change reports `true` exactly when the record of its id is in a
status the change's target may follow, and when it reports `false` nothing
changed; progress is stored on the record of its id, or nothing changed. -/
def Answers (s : RecordStore) (recs recs' : List ExportRecord) : StoreRequest → Prop
  | .create n => recs' = recs ++ [n.record (lastId recs + 1) s.clock] ∨
      (recs' = recs ∧ ∃ e, (s.createExport n).2 = .error e)
  | .change id c => ∃ b, (s.changeStatus id c).2 = .ok b ∧
      (b = true ↔ ∃ r ∈ recs, r.id = id ∧ r.status ∈ c.target.predecessors) ∧ (b = false → recs' = recs)
  | .progress id rows total =>
      ((s.updateProgress id rows total).2 = .ok true ∧
        recs' = recs.map fun q => if q.id = id then q.progressed s.clock rows total else q) ∨ recs' = recs
  | .tick _ => recs' = recs

end StoreRequest

/-- The store after a sequence of requests. -/
def performAll : RecordStore → List StoreRequest → RecordStore
  | s, [] => s
  | s, q :: qs => performAll (q.perform s) qs

/-- A change reports `true` exactly when the record of its id is in one of the
target's predecessors. -/
theorem any_appliesTo_iff (recs : List ExportRecord) (id : Int) (c : StatusChange) :
    recs.any (c.appliesTo id) = true ↔ ∃ r ∈ recs, r.id = id ∧ r.status ∈ c.target.predecessors := by
  simp [StatusChange.appliesTo, ExportStatus.canTransitionTo]

/-- Storing no progress changes nothing on a store: the clock is not in its records. -/
theorem Stores.tick {s : RecordStore} {recs : List ExportRecord} (hs : Stores s recs) (now : Int) :
    Stores { s with clock := now } recs :=
  ⟨hs.isOpen, hs.migrated, hs.ascending, hs.linked⟩

section Step

variable {s : RecordStore} {recs : List ExportRecord}

theorem step_create (hs : Stores s recs) (agree : ∀ r ∈ recs, r.StampsAgree) (n : NewExport) :
    ∃ recs', Stores (StoreRequest.perform s (.create n)) recs' ∧ (StoreRequest.create n).Answers s recs recs' ∧
      Evolves recs recs' ∧ (∀ r ∈ recs', r.StampsAgree) ∧ (LinksBack recs → LinksBack recs') := by
  obtain ⟨-, spec⟩ := hs.createExport_spec n
  split at spec
  · -- the record is put past the last
    rename_i accepted
    refine ⟨_, spec, .inl rfl, Evolves.append_pending recs rfl, fun r mem => ?_,
      fun links => links.created hs.ascending accepted.2⟩
    rcases List.mem_append.mp mem with old | new
    · exact agree r old
    · rw [List.mem_singleton.mp new]
      exact ExportRecord.stampsAgree_record n _ _
  · exact ⟨recs, spec.1, .inr ⟨rfl, spec.2⟩, Evolves.refl recs, agree, fun links => links⟩

theorem step_change (hs : Stores s recs) (agree : ∀ r ∈ recs, r.StampsAgree) (id : Int) (c : StatusChange) :
    ∃ recs', Stores (StoreRequest.perform s (.change id c)) recs' ∧ (StoreRequest.change id c).Answers s recs recs' ∧
      Evolves recs recs' ∧ (∀ r ∈ recs', r.StampsAgree) ∧ (LinksBack recs → LinksBack recs') := by
  obtain ⟨s', request, stores, -⟩ := hs.changeStatus_spec id c
  have allowed : ∀ r, c.appliesTo id r = true → r.status.canTransitionTo c.target = true := by
    intro r applies
    simp only [StatusChange.appliesTo, Bool.and_eq_true] at applies
    exact applies.2
  refine ⟨_, by rw [StoreRequest.perform, request]; exact stores, ⟨_, by rw [request], any_appliesTo_iff recs id c, ?_⟩,
    Evolves.map fun r _ => ?_, ?_, fun links => links.map fun r => ?_⟩
  · -- no record applies: every one stays
    intro none
    have stays : ∀ r ∈ recs, c.appliesTo id r = false := by simpa using none
    rw [List.map_congr_left (g := fun r => r) fun r mem => by simp [stays r mem], List.map_id']
  · by_cases applies : c.appliesTo id r = true
    · simpa [applies] using r.follows_changed s.clock (allowed r applies)
    · simpa [applies] using ExportRecord.Follows.refl r
  · intro r' mem
    obtain ⟨r, old, rfl⟩ := List.mem_map.mp mem
    by_cases applies : c.appliesTo id r = true
    · simpa [applies] using (agree r old).changed s.clock (allowed r applies)
    · simpa [applies] using agree r old
  · -- a change keeps the record's id and the record it retries
    split
    · exact ⟨r.id_changed s.clock c, r.retriedFromId_changed s.clock c⟩
    · exact ⟨rfl, rfl⟩

theorem step_progress (hs : Stores s recs) (agree : ∀ r ∈ recs, r.StampsAgree) (id rows : Int) (total : Option Int) :
    ∃ recs', Stores (StoreRequest.perform s (.progress id rows total)) recs' ∧
      (StoreRequest.progress id rows total).Answers s recs recs' ∧ Evolves recs recs' ∧ (∀ r ∈ recs', r.StampsAgree) ∧
        (LinksBack recs → LinksBack recs') := by
  obtain ⟨s', spec, -⟩ := hs.updateProgress_spec id rows total
  have progressed : ∀ r ∈ recs, r.Follows (if r.id = id then r.progressed s.clock rows total else r) := by
    intro r _
    split
    · exact r.follows_progressed s.clock rows total
    · exact ExportRecord.Follows.refl r
  have stamped : ∀ r ∈ recs.map (fun q => if q.id = id then q.progressed s.clock rows total else q), r.StampsAgree := by
    intro r' mem
    obtain ⟨r, old, rfl⟩ := List.mem_map.mp mem
    split
    · exact (agree r old).progressed s.clock rows total
    · exact agree r old
  split at spec
  · -- no record of the id: nothing changes
    obtain ⟨request, stores⟩ := spec
    exact ⟨recs, by rw [StoreRequest.perform, request]; exact stores, .inr rfl, Evolves.refl recs, agree, fun links => links⟩
  · split at spec
    · obtain ⟨request, stores⟩ := spec
      refine ⟨_, by rw [StoreRequest.perform, request]; exact stores, .inl ⟨by rw [request], rfl⟩,
        Evolves.map progressed, stamped, fun links => links.map fun r => ?_⟩
      split
      · exact ⟨rfl, rfl⟩
      · exact ⟨rfl, rfl⟩
    · -- the table refuses a negative count or total
      obtain ⟨⟨e, request⟩, stores⟩ := spec
      exact ⟨recs, by rw [StoreRequest.perform, request]; exact stores, .inr rfl, Evolves.refl recs, agree, fun links => links⟩

/-- What one request does to a store of records whose stamps agree: it
answers as `StoreRequest.Answers` says, every record follows its status graph,
and the stamps still agree. -/
theorem Stores.step (hs : Stores s recs) (agree : ∀ r ∈ recs, r.StampsAgree) (q : StoreRequest) :
    ∃ recs', Stores (q.perform s) recs' ∧ q.Answers s recs recs' ∧ Evolves recs recs' ∧
      (∀ r ∈ recs', r.StampsAgree) ∧ (LinksBack recs → LinksBack recs') := by
  cases q with
  | create n => exact step_create hs agree n
  | change id c => exact step_change hs agree id c
  | progress id rows total => exact step_progress hs agree id rows total
  | tick now => exact ⟨recs, hs.tick now, rfl, Evolves.refl recs, agree, fun links => links⟩

/-- Every store reached by requests from one whose stamps agree and whose
retry links go back holds records of which both hold. -/
theorem Stores.performAll (hs : Stores s recs) (agree : ∀ r ∈ recs, r.StampsAgree) (links : LinksBack recs)
    (qs : List StoreRequest) :
    ∃ recs', Stores (ReportExport.performAll s qs) recs' ∧ (∀ r ∈ recs', r.StampsAgree) ∧ LinksBack recs' := by
  induction qs generalizing s recs with
  | nil => exact ⟨recs, hs, agree, links⟩
  | cons q qs ih =>
    obtain ⟨recs', hs', -, -, agree', kept⟩ := hs.step agree q
    exact ih hs' agree' (kept links)

end Step

/-- From a store that holds no record, through any sequence of requests:
the store holds records whose stamps agree with their status; every record
retries a stored record (the foreign key, in `Stores`) of an id at most its
own, so the retry links form no cycle but a record naming itself; and every
further request answers as `StoreRequest.Answers` says (a change reports
`true` exactly when the record of its id may move, and one that reports
`false` or is refused changes nothing) while each record follows the status
graph, a finished one frozen. -/
theorem records_follow_lifecycle {s₀ : RecordStore} (empty : Stores s₀ []) (qs : List StoreRequest) :
    ∃ recs, Stores (performAll s₀ qs) recs ∧ (∀ r ∈ recs, r.StampsAgree) ∧ LinksBack recs ∧
      (∀ a, Relation.TransGen (RetriesFrom recs) a a → RetriesFrom recs a a) ∧
      ∀ q : StoreRequest, ∃ recs', Stores (q.perform (performAll s₀ qs)) recs' ∧
        q.Answers (performAll s₀ qs) recs recs' ∧ Evolves recs recs' := by
  obtain ⟨recs, hs, agree, links⟩ := empty.performAll (fun r mem => absurd mem List.not_mem_nil)
    (fun r mem => absurd mem List.not_mem_nil) qs
  refine ⟨recs, hs, agree, links, fun a cycle => links.cycle_self cycle, fun q => ?_⟩
  obtain ⟨recs', hs', answers, evolves, -⟩ := hs.step agree q
  exact ⟨recs', hs', answers, evolves⟩

/-- The migrated store without rows holds no record. -/
theorem stores_storeSchema : Stores { conn := { db := storeSchema } } [] :=
  ⟨rfl, ⟨⟨#[], #[], rfl⟩, rfl, rfl, rfl, rfl⟩, List.Pairwise.nil, fun _ mem => absurd mem List.not_mem_nil⟩

/-- On the migrated store without rows, dispatching, starting and failing an
export that is not there keeps the records' lifecycle. -/
theorem records_follow_lifecycle_from_schema :
    Stores { conn := { db := storeSchema } } [] ∧
      ∃ recs, Stores (performAll { conn := { db := storeSchema } } [.change 7 (.dispatch "job-7"), .change 7 .start, .change 7 (.fail "disk full")]) recs ∧
        (∀ r ∈ recs, r.StampsAgree) ∧ LinksBack recs ∧
        (∀ a, Relation.TransGen (RetriesFrom recs) a a → RetriesFrom recs a a) ∧
        ∀ q : StoreRequest, ∃ recs', Stores (q.perform (performAll { conn := { db := storeSchema } } [.change 7 (.dispatch "job-7"), .change 7 .start, .change 7 (.fail "disk full")])) recs' ∧
          q.Answers (performAll { conn := { db := storeSchema } } [.change 7 (.dispatch "job-7"), .change 7 .start, .change 7 (.fail "disk full")]) recs recs' ∧ Evolves recs recs' :=
  ⟨stores_storeSchema, records_follow_lifecycle stores_storeSchema [.change 7 (.dispatch "job-7"), .change 7 .start, .change 7 (.fail "disk full")]⟩

/-- The table takes a record that names its own id as the record it retries:
on the migrated store without rows, creating an export that retries id 1
stores record 1, retrying itself, since the foreign key is checked once the
row is in. -/
theorem create_retrying_own_id_accepted :
    let n : NewExport :=
      { descriptor := { kind := "table", arguments := .obj [("sql", .str "SELECT 1")], disk := "local",
                        directory := "reports", filename := "one.csv", chunkSize := 1000 },
        querySql := "SELECT 1", queue := "default", retriedFromId := some 1 }
    Stores (performAll { conn := { db := storeSchema } } [.create n]) [n.record 1 1700000000] ∧
      RetriesFrom [n.record 1 1700000000] 1 1 := by
  intro n
  obtain ⟨-, spec⟩ := stores_storeSchema.createExport_spec n
  rw [if_pos ⟨by decide, rfl⟩] at spec
  exact ⟨spec, n.record 1 1700000000, List.mem_singleton_self _, rfl, rfl⟩

end ReportExport
