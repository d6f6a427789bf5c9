import ReportExport.Proofs.Export.Outcome

/-!
# Runs of one export, interleaved

Runs of one export id, by duplicate deliveries, two workers or a run again
after the record finished, interleave their requests to the repository. An
invocation of a run stands at a `RunStage`: it reads the record, asks for its
move to Processing, and when the move is granted runs the export on. A worker
whose run failed with anything but a refused status change then reads the
record once more and marks it Failed when it is unfinished.
`Invocation.advance` makes the next request of one invocation, atomically;
`Runs.after` makes the requests a schedule names, in any order. The rest of a
granted run is one request here: while it runs, the other invocations can
only read the record and be refused, which changes no record and no file.

* `Standing` is what holds after every schedule (`Standing.step`,
  `Standing.after`): until a move is granted the store holds the records it
  held and nothing else changed; then one invocation owns the record, and the
  records and the files are those of its run.
* `interleaved_runs_have_one_owner`: at most one invocation is granted the
  move; every other one is refused with `invalidTransition`, or with
  `notFound` when there is no record, and none of its requests changes a
  record or a file; the records and the files are those the owner's run
  leaves.
* `after_alone`: an invocation alone makes the requests of `run`, and a
  worker after them those of its failure hook.
-/

namespace ReportExport

open Store ExportM

namespace Exporter

/-- Where an invocation of a run stands: the request it makes next, or its
result. -/
inductive RunStage where
  /-- About to read the record. -/
  | reading
  /-- Has read the record; about to ask for its move to Processing. -/
  | starting (record : ExportRecord)
  /-- Was granted the move; about to run the export. -/
  | owning (record : ExportRecord)
  /-- A worker whose run failed; about to read the record for its hook. -/
  | hooking (err : ExportError)
  /-- A worker whose hook found the record unfinished; about to mark it Failed. -/
  | marking (err : ExportError)
  /-- Done, with the result of the run. -/
  | finished (result : Except ExportError ExportRecord)

/-- One invocation of a run: by a worker, which applies the failure hook, or
by a caller of the run itself. -/
structure Invocation where
  worker : Bool
  /-- Whether its request to move the record to Processing was granted. -/
  granted : Bool := false
  stage : RunStage := .reading

namespace Invocation

/-- Where a failed run goes on: a worker applies its failure hook unless the
error is a refused status change. -/
def failWith (inv : Invocation) (err : ExportError) : Invocation :=
  { inv with stage := if inv.worker && !err.isInvalidTransition then .hooking err else .finished (.error err) }

/-- The next request of an invocation of the run of `id`, made on the
pipeline: the invocation after it and the pipeline it leaves. -/
def advance (id : Int) (inv : Invocation) (e : Exporter) : Invocation × Exporter :=
  match inv.stage with
  | .reading =>
    match (find id).exec e with
    | (.ok record, e') => ({ inv with stage := .starting record }, e')
    | (.error err, e') => (inv.failWith err, e')
  | .starting record =>
    match (withStore (·.markProcessing id)).exec e with
    | (.ok true, e') => ({ inv with granted := true, stage := .owning record }, e')
    | (.ok false, e') => (inv.failWith (.invalidTransition id record.status .processing), e')
    | (.error err, e') => (inv.failWith err, e')
  | .owning record =>
    match (runStarted id record).exec e with
    | (.ok done, e') => ({ inv with stage := .finished (.ok done) }, e')
    | (.error err, e') => (inv.failWith err, e')
  | .hooking err =>
    match (withStore (·.getExport id)).exec e with
    | (.ok (some record), e') =>
      ({ inv with stage := if record.isFinished then .finished (.error err) else .marking err }, e')
    | (_, e') => ({ inv with stage := .finished (.error err) }, e')
  | .marking err =>
    ({ inv with stage := .finished (.error err) }, ((withStore (·.markFailed id err.message)).exec e).2)
  | .finished _ => (inv, e)

end Invocation

/-- Invocations of the run of one id on one pipeline. -/
structure Runs where
  pipeline : Exporter
  invocations : List Invocation

namespace Runs

/-- Invocations that have made no request, one for each worker flag. -/
def start (e : Exporter) (workers : List Bool) : Runs :=
  ⟨e, workers.map fun worker => { worker }⟩

/-- The invocation at index `i` makes its next request; past the last index
nothing happens. -/
def step (id : Int) (rs : Runs) (i : Nat) : Runs :=
  match rs.invocations[i]? with
  | some inv => ⟨(inv.advance id rs.pipeline).2, rs.invocations.set i (inv.advance id rs.pipeline).1⟩
  | none => rs

/-- The runs after the requests of a schedule, each naming the index of the
invocation that makes it. -/
def after (id : Int) : Runs → List Nat → Runs
  | rs, [] => rs
  | rs, i :: schedule => after id (rs.step id i) schedule

end Runs

/-- A request that changes no record and nothing of the pipeline but its
store. -/
def KeepsRecords (e e' : Exporter) : Prop :=
  ∃ recs s', Stores e.store recs ∧ e' = { e with store := s' } ∧ Stores s' recs

/-! ## How runs stand -/

section Standing

variable (e : Exporter) (recs : List ExportRecord) (id : Int)

/-- An invocation that was not granted the move, where `present` says
whether a record of the id is stored: it is about to read the record or to
ask for its move, or it was refused; a worker's hook waits only on a missing
record. -/
inductive Waiting (present : Bool) : Invocation → Prop
  | reading {worker : Bool} : Waiting present ⟨worker, false, .reading⟩
  | starting {worker : Bool} {record : ExportRecord} (stored : present = true) :
      Waiting present ⟨worker, false, .starting record⟩
  | refused {worker : Bool} {status : ExportStatus} :
      Waiting present ⟨worker, false, .finished (.error (.invalidTransition id status .processing))⟩
  | missing {worker : Bool} (absent : present = false) :
      Waiting present ⟨worker, false, .finished (.error (.notFound id))⟩
  | hooking (absent : present = false) : Waiting present ⟨true, false, .hooking (.notFound id)⟩

/-- The owner once its run ended with `res`: done, or a worker about to
apply its hook for the error. -/
inductive Settled (res : Except ExportError ExportRecord) : Invocation → Prop
  | finished {worker : Bool} : Settled res ⟨worker, true, .finished res⟩
  | hooking {err : ExportError} (failed : res = .error err) : Settled res ⟨true, true, .hooking err⟩

/-- How the runs of `id` stand, from the pipeline `e` whose store holds
`recs`. Before a move is granted, only the store changed and it holds `recs`.
Once the move of the Dispatched record `r` is granted, one invocation owns
it and the store holds it started; once the owner's run went on from the
store `s₀`, the records and everything but the store are as that run left
them, the record as `r'`, and the store holds the same records. -/
inductive Standing : Runs → Prop
  | unowned {s : RecordStore} {invs : List Invocation} (hs : Stores s recs) (clock : s.clock = e.store.clock)
      (waiting : ∀ inv ∈ invs, Waiting id (recs.any (·.id == id)) inv)
      (read : ∀ inv ∈ invs, ∀ q, inv.stage = .starting q → recs.find? (·.id == id) = some q) :
      Standing ⟨{ e with store := s }, invs⟩
  | owned {s : RecordStore} {invs : List Invocation} {r : ExportRecord} {worker : Bool}
      (held : r ∈ recs) (own : r.id = id) (dispatched : r.status = .dispatched)
      (hs : Stores s (withRecord recs (r.changed e.store.clock .start)))
      (owner : ∀ inv ∈ invs, inv.granted = true → inv = ⟨worker, true, .owning r⟩)
      (one : invs.countP (·.granted) = 1)
      (waiting : ∀ inv ∈ invs, inv.granted = false → Waiting id true inv) :
      Standing ⟨{ e with store := s }, invs⟩
  | ran {s₀ s : RecordStore} {invs : List Invocation} {r r' : ExportRecord}
      (held : r ∈ recs) (own : r.id = id) (dispatched : r.status = .dispatched)
      (hs₀ : Stores s₀ (withRecord recs (r.changed e.store.clock .start)))
      (ended : Ends recs r { e with store := s₀ } ((runStarted id r).exec { e with store := s₀ }).1
        ((runStarted id r).exec { e with store := s₀ }).2 r')
      (readable' : r'.Readable) (hs : Stores s (withRecord recs r'))
      (owner : ∀ inv ∈ invs, inv.granted = true → Settled ((runStarted id r).exec { e with store := s₀ }).1 inv)
      (one : invs.countP (·.granted) = 1)
      (waiting : ∀ inv ∈ invs, inv.granted = false → Waiting id true inv) :
      Standing ⟨{ ((runStarted id r).exec { e with store := s₀ }).2 with store := s }, invs⟩

end Standing

/-! ## One request of one invocation -/

namespace Invocation

variable {id : Int} {e : Exporter} {recs : List ExportRecord} {w g : Bool}

/-- A refused status change ends a run, a worker's too. -/
theorem failWith_invalidTransition (inv : Invocation) (status target : ExportStatus) :
    inv.failWith (.invalidTransition id status target) =
      { inv with stage := .finished (.error (.invalidTransition id status target)) } := by
  simp [failWith, ExportError.isInvalidTransition]

theorem advance_reading_found {q : ExportRecord} (hs : Stores e.store recs) (readable : ∀ r ∈ recs, r.Readable)
    (found : recs.find? (·.id == id) = some q) :
    (⟨w, g, .reading⟩ : Invocation).advance id e = (⟨w, g, .starting q⟩, e) := by
  simp only [advance, exec_find_found hs readable found]

theorem advance_reading_missing (hs : Stores e.store recs) (readable : ∀ r ∈ recs, r.Readable)
    (missing : recs.find? (·.id == id) = none) :
    (⟨w, g, .reading⟩ : Invocation).advance id e = ((⟨w, g, .reading⟩ : Invocation).failWith (.notFound id), e) := by
  simp only [advance, exec_find_missing hs readable missing]

/-- Asking for the move of a record that is not Dispatched is refused with
the status read before, and changes no record. -/
theorem advance_starting_refused {q : ExportRecord} (hs : Stores e.store recs)
    (unstarted : ∀ r ∈ recs, r.id = id → r.status ≠ .dispatched) :
    ∃ s', (⟨w, g, .starting q⟩ : Invocation).advance id e =
        (⟨w, g, .finished (.error (.invalidTransition id q.status .processing))⟩, { e with store := s' }) ∧
      Stores s' recs ∧ s'.clock = e.store.clock := by
  obtain ⟨s', refused, stores, clock⟩ := hs.markProcessing_refused id unstarted
  refine ⟨s', ?_, stores, clock⟩
  simp only [advance, exec_withStore_ok (·.markProcessing id) refused, failWith_invalidTransition]

/-- Asking for the move of a Dispatched record is granted, and starts it. -/
theorem advance_starting_granted {q : ExportRecord} (hs : Stores e.store recs) (held : q ∈ recs)
    (dispatched : q.status = .dispatched) :
    ∃ s₁, (⟨w, g, .starting q⟩ : Invocation).advance q.id e = (⟨w, true, .owning q⟩, { e with store := s₁ }) ∧
      Stores s₁ (withRecord recs (q.changed e.store.clock .start)) := by
  have hs₀ : Stores e.store (withRecord recs q) := by rw [hs.withRecord_self held]; exact hs
  obtain ⟨s₁, granted, hs₁, -⟩ := hs₀.changeStatus_withRecord ⟨q, held, rfl⟩ .start
  have applies : StatusChange.start.appliesTo q.id q = true := by
    rw [appliesTo_own, dispatched]
    rfl
  rw [applies, if_pos rfl] at hs₁
  rw [applies] at granted
  refine ⟨s₁, ?_, hs₁⟩
  simp only [advance, exec_withStore_ok (·.markProcessing q.id) granted]

/-- The owner runs the rest of its run, and settles with its result. -/
theorem advance_owning (id : Int) (e : Exporter) (w : Bool) (r : ExportRecord) :
    Settled ((runStarted id r).exec e).1 ((⟨w, true, .owning r⟩ : Invocation).advance id e).1 ∧
      ((⟨w, true, .owning r⟩ : Invocation).advance id e).2 = ((runStarted id r).exec e).2 := by
  rcases ran : (runStarted id r).exec e with ⟨res, e'⟩
  cases res with
  | ok done =>
    simp only [advance, ran, and_true]
    exact .finished
  | error err =>
    simp only [advance, ran, failWith, and_true]
    cases w
    · exact .finished
    · cases refusal : err.isInvalidTransition
      · exact .hooking rfl
      · exact .finished

/-- The hook of a worker reads a record that is missing or finished, and
marks nothing. -/
theorem advance_hooking {err : ExportError} (hs : Stores e.store recs) (readable : ∀ r ∈ recs, r.Readable)
    (settled : ∀ q, recs.find? (·.id == id) = some q → q.isFinished = true) :
    (⟨w, g, .hooking err⟩ : Invocation).advance id e = (⟨w, g, .finished (.error err)⟩, e) := by
  have looked := exec_withStore_ok (e := e) (·.getExport id) (hs.getExport_spec readable id)
  cases found : recs.find? (·.id == id) with
  | none =>
    rw [found] at looked
    simp only [advance, looked]
  | some q =>
    rw [found] at looked
    simp only [advance, looked, settled q found, if_true]

theorem advance_finished (res : Except ExportError ExportRecord) :
    (⟨w, g, .finished res⟩ : Invocation).advance id e = (⟨w, g, .finished res⟩, e) := rfl

end Invocation

namespace Waiting

variable {id : Int} {e : Exporter} {recs : List ExportRecord} {present : Bool} {inv : Invocation}

/-- A request of an invocation that waits changes no record and nothing but
the store, and the invocation waits on, as long as no record it may ask to
move is Dispatched; an invocation that reads the record finds it stored. -/
theorem advance (waiting : Waiting id present inv) (hs : Stores e.store recs) (readable : ∀ r ∈ recs, r.Readable)
    (presence : recs.any (·.id == id) = present)
    (refusing : ∀ q, inv.stage = .starting q → ∀ r ∈ recs, r.id = id → r.status ≠ .dispatched) :
    ∃ s', (inv.advance id e).2 = { e with store := s' } ∧ Stores s' recs ∧ s'.clock = e.store.clock ∧
      Waiting id present (inv.advance id e).1 ∧
      ∀ q, (inv.advance id e).1.stage = .starting q → recs.find? (·.id == id) = some q := by
  cases waiting with
  | @reading worker =>
    cases found : recs.find? (·.id == id) with
    | some q =>
      rw [Invocation.advance_reading_found hs readable found]
      have stored : present = true := by
        rw [← presence]
        exact List.any_eq_true.2 ⟨q, List.mem_of_find?_eq_some found, by simpa using List.find?_some found⟩
      refine ⟨e.store, rfl, hs, rfl, .starting stored, fun q' same => ?_⟩
      cases same
      rfl
    | none =>
      rw [Invocation.advance_reading_missing hs readable found]
      have absent : present = false := by
        rw [← presence]
        simpa using found
      refine ⟨e.store, rfl, hs, rfl, ?_, fun q same => ?_⟩
      · cases worker
        · exact .missing absent
        · exact .hooking absent
      · cases worker <;> cases same
  | @starting worker record stored =>
    obtain ⟨s', refused, stores, clock⟩ :=
      Invocation.advance_starting_refused (w := worker) (g := false) (q := record) hs (refusing record rfl)
    rw [refused]
    exact ⟨s', rfl, stores, clock, .refused, fun q same => by cases same⟩
  | refused => exact ⟨e.store, rfl, hs, rfl, .refused, fun q same => by cases same⟩
  | missing absent => exact ⟨e.store, rfl, hs, rfl, .missing absent, fun q same => by cases same⟩
  | hooking absent =>
    have missing : recs.find? (·.id == id) = none := by
      rw [List.find?_eq_none]
      intro q held own
      have stored : recs.any (·.id == id) = true := List.any_eq_true.2 ⟨q, held, own⟩
      rw [presence, absent] at stored
      cases stored
    rw [Invocation.advance_hooking hs readable fun q found => by rw [missing] at found; cases found]
    exact ⟨e.store, rfl, hs, rfl, .missing absent, fun q same => by cases same⟩

theorem granted (waiting : Waiting id present inv) : inv.granted = false := by
  cases waiting <;> rfl

/-- A waiting invocation that is done was refused, or found no record. -/
theorem refusal (waiting : Waiting id present inv) {res : Except ExportError ExportRecord}
    (finished : inv.stage = .finished res) :
    res = .error (.notFound id) ∨ ∃ status, res = .error (.invalidTransition id status .processing) := by
  cases waiting with
  | refused =>
    cases finished
    exact .inr ⟨_, rfl⟩
  | missing =>
    cases finished
    exact .inl rfl
  | _ => cases finished

end Waiting

theorem Settled.granted {res : Except ExportError ExportRecord} {inv : Invocation} (settled : Settled res inv) :
    inv.granted = true := by
  cases settled <;> rfl

/-- An owner that is done has its run's result. -/
theorem Settled.result {res res' : Except ExportError ExportRecord} {inv : Invocation} (settled : Settled res inv)
    (finished : inv.stage = .finished res') : res' = res := by
  cases settled with
  | finished =>
    cases finished
    rfl
  | hooking => cases finished

/-- A run ends with its record Failed or Completed. -/
theorem Ends.isFinished {recs : List ExportRecord} {r r' : ExportRecord} {e e' : Exporter}
    {res : Except ExportError ExportRecord} (ended : Ends recs r e res e' r') : r'.isFinished = true := by
  cases res with
  | error err => rw [ExportRecord.isFinished, ended.failed err rfl]; rfl
  | ok x => rw [ExportRecord.isFinished, (ended.completed x rfl).2.1]; rfl

/-- With `x` in place, no record of `x`'s id may be moved unless `x` may. -/
theorem withRecord_refuses {recs : List ExportRecord} {x : ExportRecord} (unstarted : x.status ≠ .dispatched) :
    ∀ q ∈ withRecord recs x, q.id = x.id → q.status ≠ .dispatched := by
  intro q mem own
  rcases mem_withRecord_iff mem with rfl | ⟨-, other⟩
  · exact unstarted
  · exact absurd own other

/-! ## Which invocations are granted -/

namespace Runs

variable {id : Int} {rs : Runs} {i : Nat} {inv : Invocation}

theorem step_some (indexed : rs.invocations[i]? = some inv) :
    rs.step id i = ⟨(inv.advance id rs.pipeline).2, rs.invocations.set i (inv.advance id rs.pipeline).1⟩ := by
  rw [step, indexed]

theorem step_none (missing : rs.invocations[i]? = none) : rs.step id i = rs := by
  rw [step, missing]

end Runs

section Granted

variable {invs : List Invocation} {i : Nat} {inv : Invocation}

/-- What holds of every invocation and of a new one holds after the new one
takes an index. -/
theorem forall_mem_set {P : Invocation → Prop} {inv' : Invocation} (old : ∀ x ∈ invs, P x) (new : P inv') :
    ∀ x ∈ invs.set i inv', P x := fun x mem =>
  (List.mem_or_eq_of_mem_set mem).elim (old x) fun same => same ▸ new

theorem countP_granted_set (indexed : invs[i]? = some inv) (inv' : Invocation) :
    (invs.set i inv').countP (·.granted) =
      invs.countP (·.granted) - (if inv.granted then 1 else 0) + (if inv'.granted then 1 else 0) := by
  obtain ⟨lt, rfl⟩ := List.getElem?_eq_some_iff.1 indexed
  exact List.countP_set lt

theorem getElem?_set_self_of (indexed : invs[i]? = some inv) (inv' : Invocation) :
    (invs.set i inv')[i]? = some inv' := by
  obtain ⟨lt, -⟩ := List.getElem?_eq_some_iff.1 indexed
  simp [lt]

/-- With one invocation granted, the one at `i` is every granted one. -/
theorem eq_of_granted (indexed : invs[i]? = some inv) (granted : inv.granted = true)
    (one : invs.countP (·.granted) = 1) {x : Invocation} (mem : x ∈ invs) (granted' : x.granted = true) :
    x = inv := by
  induction invs generalizing i with
  | nil => cases mem
  | cons y ys ih =>
    rw [List.countP_cons] at one
    cases i with
    | zero =>
      -- `inv` heads the list, so none of the rest is granted
      obtain rfl : y = inv := by simpa using indexed
      rcases List.mem_cons.1 mem with rfl | later
      · rfl
      · have rest : 0 < ys.countP (·.granted) := List.countP_pos_iff.2 ⟨x, later, granted'⟩
        simp only [granted, if_true] at one
        omega
    | succ k =>
      have inTail : ys[k]? = some inv := by simpa using indexed
      have rest : 0 < ys.countP (·.granted) :=
        List.countP_pos_iff.2 ⟨inv, List.mem_of_getElem? inTail, granted⟩
      -- so the head is not granted, and `x` is in the rest
      have head : y.granted = false := by
        cases hy : y.granted
        · rfl
        · simp only [hy, if_true] at one
          omega
      rcases List.mem_cons.1 mem with rfl | later
      · rw [head] at granted'
        cases granted'
      · simp only [head, Bool.false_eq_true, if_false, Nat.add_zero] at one
        exact ih inTail one later

end Granted

/-! ## One request of any invocation, in each standing -/

namespace Standing

variable {e : Exporter} {recs : List ExportRecord} {id : Int} {invs : List Invocation} {i : Nat}
  {inv : Invocation}

theorem start (id : Int) (hs : Stores e.store recs) (workers : List Bool) :
    Standing e recs id (Runs.start e workers) := by
  refine .unowned (s := e.store) hs rfl (fun inv mem => ?_) (fun inv mem q same => ?_)
  · obtain ⟨worker, -, rfl⟩ := List.mem_map.1 mem
    exact .reading
  · obtain ⟨worker, -, rfl⟩ := List.mem_map.1 mem
    cases same

/-- Before any move is granted, a request either is the first granted move,
after which its invocation owns the record, or changes no record. -/
theorem step_unowned {s : RecordStore} (readable : ∀ r ∈ recs, r.Readable) (hs : Stores s recs)
    (clock : s.clock = e.store.clock) (waiting : ∀ inv ∈ invs, Waiting id (recs.any (·.id == id)) inv)
    (read : ∀ inv ∈ invs, ∀ q, inv.stage = .starting q → recs.find? (·.id == id) = some q)
    (indexed : invs[i]? = some inv) :
    Standing e recs id ⟨(inv.advance id { e with store := s }).2, invs.set i (inv.advance id { e with store := s }).1⟩ ∧
      ((inv.advance id { e with store := s }).1.granted = false →
        KeepsRecords { e with store := s } (inv.advance id { e with store := s }).2) := by
  have mem := List.mem_of_getElem? indexed
  by_cases grant : ∃ q, inv.stage = .starting q ∧ q.status = .dispatched
  · -- the first move granted: its invocation owns the record from now on
    obtain ⟨q, stage, dispatched⟩ := grant
    have found := read inv mem q stage
    have held := List.mem_of_find?_eq_some found
    have own : q.id = id := by simpa using List.find?_some found
    have stored : recs.any (·.id == id) = true := List.any_eq_true.2 ⟨q, held, by simp [own]⟩
    obtain ⟨worker, granted, stage'⟩ := inv
    cases stage
    cases waiting _ mem
    subst own
    obtain ⟨s₁, advanced, hs₁⟩ :=
      Invocation.advance_starting_granted (e := { e with store := s }) (w := worker) (g := false) hs held dispatched
    rw [advanced]
    rw [show ({ e with store := s } : Exporter).store.clock = e.store.clock from clock] at hs₁
    refine ⟨.owned held rfl dispatched hs₁ (forall_mem_set (fun x mem' granted' => ?_) fun _ => rfl) ?_
      (forall_mem_set (fun x mem' _ => ?_) fun notGranted => by cases notGranted), fun notGranted => by cases notGranted⟩
    · cases waiting x mem' <;> cases granted'
    · have none : invs.countP (·.granted) = 0 :=
        List.countP_eq_zero.2 fun x mem' => by cases waiting x mem' <;> simp
      rw [countP_granted_set indexed, none]
      rfl
    · rw [← stored]
      exact waiting x mem'
  · -- no move granted: the request only reads, or is refused
    have refusing : ∀ q, inv.stage = .starting q → ∀ r ∈ recs, r.id = id → r.status ≠ .dispatched := by
      intro q stage r held own dispatched
      have found := read inv mem q stage
      have own_q : q.id = id := by simpa using List.find?_some found
      obtain rfl : r = q := hs.eq_of_id held (List.mem_of_find?_eq_some found) (own.trans own_q.symm)
      exact grant ⟨r, stage, dispatched⟩
    obtain ⟨s', advanced, stores, clock', waiting', read'⟩ :=
      (waiting inv mem).advance (e := { e with store := s }) hs readable rfl refusing
    refine ⟨?_, fun _ => ⟨recs, s', hs, advanced, stores⟩⟩
    rw [advanced]
    exact .unowned stores (clock'.trans clock) (forall_mem_set waiting waiting') (forall_mem_set read read')

/-- While the owner has not run on, another request reads the started record
and is refused, changing no record; the owner's request runs the rest of its
run, after which the runs stand as that run left them. -/
theorem step_owned {s : RecordStore} {r : ExportRecord} {worker : Bool} (readable : ∀ r ∈ recs, r.Readable)
    (reads : e.ReportsRead) (wf : e.files.WellFormed)
    (held : r ∈ recs) (own : r.id = id) (dispatched : r.status = .dispatched)
    (hs : Stores s (withRecord recs (r.changed e.store.clock .start)))
    (owner : ∀ inv ∈ invs, inv.granted = true → inv = ⟨worker, true, .owning r⟩)
    (one : invs.countP (·.granted) = 1) (waiting : ∀ inv ∈ invs, inv.granted = false → Waiting id true inv)
    (indexed : invs[i]? = some inv) :
    Standing e recs id ⟨(inv.advance id { e with store := s }).2, invs.set i (inv.advance id { e with store := s }).1⟩ ∧
      ((inv.advance id { e with store := s }).1.granted = false →
        KeepsRecords { e with store := s } (inv.advance id { e with store := s }).2) := by
  have mem := List.mem_of_getElem? indexed
  subst own
  have present : ∃ q ∈ recs, q.id = (r.changed e.store.clock .start).id := ⟨r, held, by simp⟩
  have readable₁ : ∀ q ∈ withRecord recs (r.changed e.store.clock .start), q.Readable :=
    readable_withRecord readable (ExportRecord.readable_changed (readable r held) _ _)
  cases granted : inv.granted
  · -- another invocation reads the started record and is refused
    have presence : (withRecord recs (r.changed e.store.clock .start)).any (·.id == r.id) = true :=
      List.any_eq_true.2 ⟨_, mem_withRecord present, by simp⟩
    have refusing : ∀ q ∈ withRecord recs (r.changed e.store.clock .start), q.id = r.id → q.status ≠ .dispatched :=
      withRecord_refuses (by simp [ExportRecord.status_changed, StatusChange.target])
    obtain ⟨s', advanced, stores, -, waiting', -⟩ :=
      (waiting inv mem granted).advance (e := { e with store := s }) hs readable₁ presence
        fun _ _ q held' own' => refusing q held' own'
    have granted' := waiting'.granted
    refine ⟨?_, fun _ => ⟨_, s', hs, advanced, stores⟩⟩
    rw [advanced]
    refine .owned held rfl dispatched stores (forall_mem_set owner fun granted'' => ?_) ?_
      (forall_mem_set waiting fun _ => waiting')
    · rw [granted'] at granted''
      cases granted''
    · rw [countP_granted_set indexed, granted, granted', one]
      rfl
  · -- the owner runs on from the started record
    obtain rfl := owner inv mem granted
    obtain ⟨r', ended, -, bindings⟩ := exec_runStarted_processing (r := r) (e := { e with store := s }) hs readable₁
      reads wf (mem_withRecord present) (by simp [ExportRecord.status_changed, StatusChange.target]) (by simp)
    have ended' := ended.of_withRecord (by simp)
    obtain ⟨settled, pipeline⟩ := Invocation.advance_owning r.id { e with store := s } worker r
    have readable' : r'.Readable := by
      unfold ExportRecord.Readable
      rw [bindings]
      exact readable r held
    have one' := countP_granted_set indexed
      ((⟨worker, true, .owning r⟩ : Invocation).advance r.id { e with store := s }).1
    rw [granted, settled.granted, one] at one'
    refine ⟨?_, fun notGranted => by rw [settled.granted] at notGranted; cases notGranted⟩
    rw [pipeline]
    refine .ran held rfl dispatched hs ended' readable' ended'.stored (fun x mem' granted'' => ?_) one'
      (forall_mem_set waiting fun notGranted => by rw [settled.granted] at notGranted; cases notGranted)
    rw [eq_of_granted (getElem?_set_self_of indexed _) settled.granted one' mem' granted'']
    exact settled

/-- Once the owner ran on, another request reads the record as the run left
it and is refused, and the owner's hook reads it finished: no request changes
a record. -/
theorem step_ran {s₀ s : RecordStore} {r r' : ExportRecord} (readable : ∀ r ∈ recs, r.Readable)
    (held : r ∈ recs) (own : r.id = id) (dispatched : r.status = .dispatched)
    (hs₀ : Stores s₀ (withRecord recs (r.changed e.store.clock .start)))
    (ended : Ends recs r { e with store := s₀ } ((runStarted id r).exec { e with store := s₀ }).1
      ((runStarted id r).exec { e with store := s₀ }).2 r')
    (readable' : r'.Readable) (hs : Stores s (withRecord recs r'))
    (owner : ∀ inv ∈ invs, inv.granted = true → Settled ((runStarted id r).exec { e with store := s₀ }).1 inv)
    (one : invs.countP (·.granted) = 1) (waiting : ∀ inv ∈ invs, inv.granted = false → Waiting id true inv)
    (indexed : invs[i]? = some inv) :
    Standing e recs id ⟨(inv.advance id { ((runStarted id r).exec { e with store := s₀ }).2 with store := s }).2,
        invs.set i (inv.advance id { ((runStarted id r).exec { e with store := s₀ }).2 with store := s }).1⟩ ∧
      ((inv.advance id { ((runStarted id r).exec { e with store := s₀ }).2 with store := s }).1.granted = false →
        KeepsRecords { ((runStarted id r).exec { e with store := s₀ }).2 with store := s }
          (inv.advance id { ((runStarted id r).exec { e with store := s₀ }).2 with store := s }).2) := by
  have mem := List.mem_of_getElem? indexed
  subst own
  have readable₁ := readable_withRecord readable readable'
  have finished := ended.isFinished
  cases granted : inv.granted
  · -- another invocation reads the record as the run left it and is refused
    have presence : (withRecord recs r').any (·.id == r.id) = true :=
      List.any_eq_true.2 ⟨_, mem_withRecord ⟨r, held, ended.own.symm⟩, by simp [ended.own]⟩
    have refusing : ∀ q ∈ withRecord recs r', q.id = r'.id → q.status ≠ .dispatched :=
      withRecord_refuses fun dispatched' => by
        simp [ExportRecord.isFinished, dispatched', ExportStatus.isFinished] at finished
    obtain ⟨s', advanced, stores, -, waiting', -⟩ :=
      (waiting inv mem granted).advance (e := { ((runStarted r.id r).exec { e with store := s₀ }).2 with store := s })
        hs readable₁ presence fun _ _ q held' own' => refusing q held' (own'.trans ended.own.symm)
    have granted' := waiting'.granted
    refine ⟨?_, fun _ => ⟨_, s', hs, advanced, stores⟩⟩
    rw [advanced]
    refine .ran held rfl dispatched hs₀ ended readable' stores (forall_mem_set owner fun granted'' => ?_) ?_
      (forall_mem_set waiting fun _ => waiting')
    · rw [granted'] at granted''
      cases granted''
    · rw [countP_granted_set indexed, granted, granted', one]
      rfl
  · -- the owner is done, or its hook reads the record finished
    obtain ⟨settled, stays⟩ :
        Settled ((runStarted r.id r).exec { e with store := s₀ }).1
            (inv.advance r.id { ((runStarted r.id r).exec { e with store := s₀ }).2 with store := s }).1 ∧
          (inv.advance r.id { ((runStarted r.id r).exec { e with store := s₀ }).2 with store := s }).2 =
            { ((runStarted r.id r).exec { e with store := s₀ }).2 with store := s } := by
      cases owner inv mem granted with
      | finished => exact ⟨.finished, rfl⟩
      | hooking failed =>
        rw [Invocation.advance_hooking hs readable₁ fun q found => by
          rw [find?_withRecord_of_id ⟨r, held, rfl⟩ ended.own] at found
          cases found
          exact finished, failed]
        exact ⟨.finished, rfl⟩
    have one' := countP_granted_set indexed
      (inv.advance r.id { ((runStarted r.id r).exec { e with store := s₀ }).2 with store := s }).1
    rw [granted, settled.granted, one] at one'
    refine ⟨?_, fun notGranted => by rw [settled.granted] at notGranted; cases notGranted⟩
    rw [stays]
    refine .ran held rfl dispatched hs₀ ended readable' hs (fun x mem' granted'' => ?_) one'
      (forall_mem_set waiting fun notGranted => by rw [settled.granted] at notGranted; cases notGranted)
    rw [eq_of_granted (getElem?_set_self_of indexed _) settled.granted one' mem' granted'']
    exact settled

variable (readable : ∀ r ∈ recs, r.Readable) (reads : e.ReportsRead) (wf : e.files.WellFormed)
include readable reads wf

/-- One request keeps how the runs stand, and a request of an invocation
that is not granted the move changes no record and nothing but the store. -/
theorem step {rs : Runs} (standing : Standing e recs id rs) (i : Nat) :
    Standing e recs id (rs.step id i) ∧
      ∀ inv, (rs.step id i).invocations[i]? = some inv → inv.granted = false →
        KeepsRecords rs.pipeline (rs.step id i).pipeline := by
  cases indexed : rs.invocations[i]? with
  | none =>
    rw [Runs.step_none indexed]
    refine ⟨standing, fun inv found => ?_⟩
    rw [indexed] at found
    cases found
  | some inv =>
    rw [Runs.step_some indexed]
    -- the request of the invocation at `i`, as the runs stand
    have stepped : Standing e recs id ⟨(inv.advance id rs.pipeline).2, rs.invocations.set i (inv.advance id rs.pipeline).1⟩ ∧
        ((inv.advance id rs.pipeline).1.granted = false →
          KeepsRecords rs.pipeline (inv.advance id rs.pipeline).2) := by
      cases standing with
      | unowned hs clock waiting read => exact step_unowned readable hs clock waiting read indexed
      | owned held own dispatched hs owner one waiting =>
        exact step_owned readable reads wf held own dispatched hs owner one waiting indexed
      | ran held own dispatched hs₀ ended readable' hs owner one waiting =>
        exact step_ran readable held own dispatched hs₀ ended readable' hs owner one waiting indexed
    refine ⟨stepped.1, fun inv' found notGranted => ?_⟩
    rw [getElem?_set_self_of indexed] at found
    cases found
    exact stepped.2 notGranted

/-- Every schedule keeps how the runs stand. -/
theorem after {rs : Runs} (standing : Standing e recs id rs) (schedule : List Nat) :
    Standing e recs id (rs.after id schedule) := by
  induction schedule generalizing rs with
  | nil => exact standing
  | cons i schedule ih => exact ih (standing.step readable reads wf i).1

end Standing

/-! ## One owner -/

/-- Runs of one export id, interleaved request by request in any order, have
one owner. Along any sequence of requests to the store, from runs or any
other caller, the move of the record of the id to Processing is granted at
most once: no status leads back to Dispatched. Along any schedule of the
requests of any number of invocations, workers or not: at most one
invocation is granted the move; every other one that is done was refused with
`invalidTransition`, or found no record; no request of an invocation that is
not granted the move changes a record or anything but the store. The records
and the files are as they were while no move is granted; once the move of the
Dispatched record `r` is granted they hold it started; and once its owner ran
on from a store `s₀`, the records and everything but the store are as that
run alone left them, the record as the `r'` that `Ends` describes, and the
owner's result is that run's. -/
theorem interleaved_runs_have_one_owner (hs : Stores e.store recs) (agree : ∀ r ∈ recs, r.StampsAgree)
    (readable : ∀ r ∈ recs, r.Readable) (reads : e.ReportsRead) (wf : e.files.WellFormed)
    (id : Int) (workers : List Bool) (schedule : List Nat) :
    (∀ qs, startsGranted id e.store qs ≤ 1) ∧
    ((Runs.start e workers).after id schedule).invocations.countP (·.granted) ≤ 1 ∧
    (∀ inv ∈ ((Runs.start e workers).after id schedule).invocations, inv.granted = false →
      ∀ res, inv.stage = .finished res →
        res = .error (.notFound id) ∨ ∃ status, res = .error (.invalidTransition id status .processing)) ∧
    (∀ before i inv, (((Runs.start e workers).after id before).step id i).invocations[i]? = some inv →
      inv.granted = false →
        KeepsRecords ((Runs.start e workers).after id before).pipeline
          (((Runs.start e workers).after id before).step id i).pipeline) ∧
    ((∃ s, ((Runs.start e workers).after id schedule).pipeline = { e with store := s } ∧ Stores s recs) ∨
      (∃ r s, r ∈ recs ∧ r.id = id ∧ r.status = .dispatched ∧
        ((Runs.start e workers).after id schedule).pipeline = { e with store := s } ∧
        Stores s (withRecord recs (r.changed e.store.clock .start))) ∨
      ∃ r s₀ r', r ∈ recs ∧ r.id = id ∧ r.status = .dispatched ∧
        Stores s₀ (withRecord recs (r.changed e.store.clock .start)) ∧
        Ends recs r { e with store := s₀ } ((runStarted id r).exec { e with store := s₀ }).1
          ((runStarted id r).exec { e with store := s₀ }).2 r' ∧
        ((Runs.start e workers).after id schedule).pipeline =
          { ((runStarted id r).exec { e with store := s₀ }).2 with
            store := ((Runs.start e workers).after id schedule).pipeline.store } ∧
        Stores ((Runs.start e workers).after id schedule).pipeline.store (withRecord recs r') ∧
        ∀ inv ∈ ((Runs.start e workers).after id schedule).invocations, inv.granted = true →
          ∀ res, inv.stage = .finished res → res = ((runStarted id r).exec { e with store := s₀ }).1) := by
  have standing := (Standing.start id hs workers).after readable reads wf
  have quiet := fun before i => ((standing before).step readable reads wf i).2
  have final := standing schedule
  generalize (Runs.start e workers).after id schedule = rs at final ⊢
  refine ⟨hs.startsGranted_le_one agree id, ?_, ?_, quiet, ?_⟩
  · cases final with
    | unowned _ _ waiting =>
      rw [List.countP_eq_zero.2 fun x mem => by rw [(waiting x mem).granted]; decide]
      decide
    | owned _ _ _ _ _ one => exact one.le
    | ran _ _ _ _ _ _ _ _ one => exact one.le
  · intro inv mem notGranted res finished
    cases final with
    | unowned _ _ waiting => exact (waiting inv mem).refusal finished
    | owned _ _ _ _ _ _ waiting => exact (waiting inv mem notGranted).refusal finished
    | ran _ _ _ _ _ _ _ _ _ waiting => exact (waiting inv mem notGranted).refusal finished
  · cases final with
    | unowned hs' => exact .inl ⟨_, rfl, hs'⟩
    | owned held own dispatched hs' => exact .inr (.inl ⟨_, _, held, own, dispatched, rfl, hs'⟩)
    | ran held own dispatched hs₀ ended _ hs' owner =>
      exact .inr (.inr ⟨_, _, _, held, own, dispatched, hs₀, ended, rfl, hs',
        fun inv mem granted res finished => (owner inv mem granted).result finished⟩)

/-- Two workers delivered the moved record's job and alternate their
requests: at most one of them is granted the move. -/
theorem moved_record_has_one_owner_of_two_workers :
    Stores movedExporter.store [movedRecord] ∧ movedExporter.ReportsRead ∧
      ((Runs.start movedExporter [true, true]).after movedRecord.id [0, 1, 0, 1, 0, 1]).invocations.countP
        (·.granted) ≤ 1 :=
  have reads : movedExporter.ReportsRead := reportsRead_of_untabled (by decide)
  have agree : ∀ r ∈ [movedRecord], r.StampsAgree := by
    intro r held
    rw [List.mem_singleton.mp held]
    constructor <;> simp [movedRecord]
  ⟨movedExporter_stores, reads,
    (interleaved_runs_have_one_owner movedExporter_stores agree movedRecord_readable reads
      FileTree.wellFormed_empty movedRecord.id [true, true] [0, 1, 0, 1, 0, 1]).2.1⟩

/-! ## An invocation alone -/

section Alone

variable {id : Int}

theorem after_single (e : Exporter) (inv : Invocation) (schedule : List Nat) :
    (⟨e, [inv]⟩ : Runs).after id (0 :: schedule) =
      (⟨(inv.advance id e).2, [(inv.advance id e).1]⟩ : Runs).after id schedule := rfl

theorem after_finished (e : Exporter) (w g : Bool) (res : Except ExportError ExportRecord) (n : Nat) :
    (⟨e, [⟨w, g, .finished res⟩]⟩ : Runs).after id (List.replicate n 0) = ⟨e, [⟨w, g, .finished res⟩]⟩ := by
  induction n with
  | zero => rfl
  | succ n ih => rw [List.replicate_succ, after_single, Invocation.advance_finished, ih]

/-- The two requests of a worker's failure hook do what the hook does. -/
theorem after_hooking (e : Exporter) (g : Bool) (err : ExportError) (n : Nat) :
    (⟨e, [⟨true, g, .hooking err⟩]⟩ : Runs).after id (List.replicate (n + 2) 0) =
      ⟨((markUnfinishedFailed id err.message).exec e).2, [⟨true, g, .finished (.error err)⟩]⟩ := by
  rw [List.replicate_succ, after_single]
  rcases looked : e.store.getExport id with ⟨s₁, r⟩
  have read := exec_withStore (e := e) (·.getExport id)
  rw [looked] at read
  by_cases unfinished : ∃ record, r = .ok (some record) ∧ record.isFinished = false
  · -- the record is unfinished: the second request marks it Failed
    obtain ⟨record, rfl, unfinished⟩ := unfinished
    rw [markUnfinishedFailed_marks looked unfinished]
    simp only [Invocation.advance, read, Except.mapError, unfinished, Bool.false_eq_true, if_false]
    rw [List.replicate_succ, after_single]
    simp only [Invocation.advance, exec_withStore]
    exact after_finished _ _ _ _ n
  · -- otherwise the hook only reads
    have leaves : (markUnfinishedFailed id err.message).exec e = (.ok (), { e with store := s₁ }) :=
      markUnfinishedFailed_leaves looked fun record same => by simpa [same] using unfinished
    rw [leaves]
    have done : (⟨true, g, .hooking err⟩ : Invocation).advance id e =
        (⟨true, g, .finished (.error err)⟩, { e with store := s₁ }) := by
      rcases r with failure | _ | record
      · simp only [Invocation.advance, read, Except.mapError]
      · simp only [Invocation.advance, read, Except.mapError]
      · have finished : record.isFinished = true := by simpa using unfinished
        simp only [Invocation.advance, read, Except.mapError, finished, if_true]
    rw [done, List.replicate_succ, after_single, Invocation.advance_finished]
    exact after_finished _ _ _ _ n

/-- A failed run ends its invocation, a worker's after its hook. -/
theorem after_failWith (e : Exporter) (inv : Invocation) (err : ExportError) (n : Nat) :
    (⟨e, [inv.failWith err]⟩ : Runs).after id (List.replicate (n + 2) 0) =
      ⟨if inv.worker && !err.isInvalidTransition then ((markUnfinishedFailed id err.message).exec e).2 else e,
        [{ inv with stage := .finished (.error err) }]⟩ := by
  obtain ⟨w, g, stage⟩ := inv
  unfold Invocation.failWith
  by_cases hooks : (w && !err.isInvalidTransition) = true
  · have worker : w = true := by
      rw [Bool.and_eq_true] at hooks
      exact hooks.1
    subst worker
    simp only [hooks, if_true]
    exact after_hooking e g err n
  · simp only [hooks, Bool.false_eq_true, if_false]
    exact after_finished _ _ _ _ _

/-- An invocation alone makes the requests of `run`, and a worker then those
of its failure hook for an error that is not a refused status change, as
processing a job does (`Settles`): five requests end it. -/
theorem after_alone (e : Exporter) (worker : Bool) :
    ((Runs.start e [worker]).after id (List.replicate 5 0)).invocations.map (·.stage) =
        [.finished ((run id).exec e).1] ∧
      ((Runs.start e [worker]).after id (List.replicate 5 0)).pipeline =
        match (run id).exec e with
        | (.error err, e') =>
          if worker && !err.isInvalidTransition then ((markUnfinishedFailed id err.message).exec e').2 else e'
        | (.ok _, e') => e' := by
  have start : Runs.start e [worker] = ⟨e, [⟨worker, false, .reading⟩]⟩ := rfl
  rw [start, List.replicate_succ, after_single]
  unfold run
  rcases found : (find id).exec e with ⟨_ | record, e₁⟩
  · -- no record is read
    simp only [Invocation.advance, found, exec_bind_error found]
    rw [after_failWith _ _ _ 2]
    exact ⟨rfl, rfl⟩
  rw [exec_bind_ok found]
  simp only [Invocation.advance, found]
  rw [List.replicate_succ, after_single]
  rcases started : (withStore (·.markProcessing id)).exec e₁ with ⟨_ | granted, e₂⟩
  · -- the store fails
    simp only [Invocation.advance, started, exec_bind_error started]
    rw [after_failWith _ _ _ 1]
    exact ⟨rfl, rfl⟩
  cases granted
  · -- the move is refused
    simp only [Invocation.advance, started, exec_bind_ok started, Bool.false_eq_true, if_false, exec_bind_error (exec_throw _ _)]
    rw [after_failWith _ _ _ 1]
    exact ⟨rfl, rfl⟩
  -- the move is granted, and the run goes on
  simp only [Invocation.advance, started, exec_bind_ok started, if_true]
  rw [List.replicate_succ, after_single]
  rcases ran : (runStarted id record).exec e₂ with ⟨_ | done, e₃⟩
  · simp only [Invocation.advance, ran]
    rw [after_failWith _ _ _ 0]
    exact ⟨rfl, rfl⟩
  · simp only [Invocation.advance, ran]
    rw [after_finished]
    exact ⟨rfl, rfl⟩

end Alone

end Exporter

end ReportExport
