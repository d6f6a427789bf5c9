import ReportExport.Export.Work

/-!
# What pipeline actions leave alone

A pipeline action runs on the whole state of the pipeline and either gives
a value or fails, keeping the changes made before the failure. This module
gives the run of an action (`ExportM.exec`) its equations for `pure`,
`throw`, `get`, `set`, binds and `attempt`, and states `Keeps`: whatever an
action gives, a view of the state after it is the view before it. Binds,
branches and `attempt` keep what their parts keep (`keeps_bind`,
`keeps_ite`, `keeps_attempt`), so each function of the pipeline gets its
lemma from those of the functions it calls.

The view used here is the job queue with the settings that name the
worker's queue (`Exporter.queueSide`): a run of an export
(`run_keepsQueueSide`) and the worker's failure hook
(`markUnfinishedFailed_keepsQueueSide`) leave both alone, so the only queue
requests a worker makes for a job are its own acknowledgement or failure.
-/

namespace ReportExport

namespace ExportM

variable {α β γ : Type}

@[simp] theorem exec_pure (a : α) (e : Exporter) : (pure a : ExportM α).exec e = (.ok a, e) := rfl

@[simp] theorem exec_throw (err : ExportError) (e : Exporter) : (throw err : ExportM α).exec e = (.error err, e) :=
  rfl

@[simp] theorem exec_get (e : Exporter) : (get : ExportM Exporter).exec e = (.ok e, e) := rfl

@[simp] theorem exec_set (s e : Exporter) : (set s : ExportM PUnit).exec e = (.ok ⟨⟩, s) := rfl

@[simp] theorem exec_modify (f : Exporter → Exporter) (e : Exporter) :
    (modify f : ExportM PUnit).exec e = (.ok ⟨⟩, f e) := rfl

@[simp] theorem exec_fromExcept (r : Except ExportError α) (e : Exporter) : (fromExcept r).exec e = (r, e) := by
  cases r <;> rfl

theorem exec_bind_ok {x : ExportM α} {f : α → ExportM β} {e e' : Exporter} {a : α}
    (h : x.exec e = (.ok a, e')) : (x >>= f).exec e = (f a).exec e' := by
  show StateT.bind x (ExceptT.bindCont f) e = _
  simp only [StateT.bind, ExceptT.bindCont]
  simp only [exec, ExceptT.run, StateT.run] at h
  rw [h]
  rfl

theorem exec_bind_error {x : ExportM α} {f : α → ExportM β} {e e' : Exporter} {err : ExportError}
    (h : x.exec e = (.error err, e')) : (x >>= f).exec e = (.error err, e') := by
  show StateT.bind x (ExceptT.bindCont f) e = _
  simp only [StateT.bind, ExceptT.bindCont]
  simp only [exec, ExceptT.run, StateT.run] at h
  rw [h]
  rfl

theorem exec_bind (x : ExportM α) (f : α → ExportM β) (e : Exporter) :
    (x >>= f).exec e = match x.exec e with
      | (.ok a, e') => (f a).exec e'
      | (.error err, e') => (.error err, e') := by
  rcases h : x.exec e with ⟨a | a, e'⟩
  · exact exec_bind_error h
  · exact exec_bind_ok h

@[simp] theorem exec_get_bind (k : Exporter → ExportM α) (e : Exporter) : (get >>= k).exec e = (k e).exec e :=
  exec_bind_ok (exec_get e)

@[simp] theorem exec_set_bind (s : Exporter) (k : PUnit → ExportM α) (e : Exporter) :
    (set s >>= k).exec e = (k ⟨⟩).exec s :=
  exec_bind_ok (exec_set s e)

@[simp] theorem exec_modify_bind (f : Exporter → Exporter) (k : PUnit → ExportM α) (e : Exporter) :
    (modify f >>= k).exec e = (k ⟨⟩).exec (f e) :=
  exec_bind_ok (exec_modify f e)

theorem exec_attempt (m : ExportM α) (e : Exporter) : (attempt m).exec e = (.ok (m.exec e).1, (m.exec e).2) := by
  simp only [exec, attempt, ExceptT.run, StateT.run, tryCatch, tryCatchThe, MonadExceptOf.tryCatch,
    ExceptT.tryCatch, ExceptT.mk, ExceptT.map, bind, StateT.bind]
  rcases m e with ⟨_ | _, _⟩ <;> rfl

@[simp] theorem exec_map (f : α → β) (x : ExportM α) (e : Exporter) :
    (f <$> x).exec e = ((x.exec e).1.map f, (x.exec e).2) := by
  simp only [exec, ExceptT.run, StateT.run, Functor.map, ExceptT.map, ExceptT.mk, bind, StateT.bind]
  rcases x e with ⟨_ | _, _⟩ <;> rfl

theorem exec_map_ok {f : α → β} {x : ExportM α} {e e' : Exporter} {a : α} (h : x.exec e = (.ok a, e')) :
    (f <$> x).exec e = (.ok (f a), e') := by
  rw [exec_map, h]
  rfl

/-- An action keeps a view of the state: whatever it gives, the view after it
is the view before. -/
def Keeps (view : Exporter → β) (m : ExportM α) : Prop := ∀ e, view (m.exec e).2 = view e

section Keeps

variable {view : Exporter → γ}

theorem keeps_pure (a : α) : Keeps view (pure a : ExportM α) := fun _ => rfl

theorem keeps_throw (err : ExportError) : Keeps view (throw err : ExportM α) := fun _ => rfl

theorem keeps_fromExcept (r : Except ExportError α) : Keeps view (fromExcept r) := fun e => by simp

theorem keeps_throw_bind {err : ExportError} {f : α → ExportM β} : Keeps view (throw err >>= f) := fun e => by
  rw [exec_bind_error (exec_throw err e)]

theorem keeps_get : Keeps view (get : ExportM Exporter) := fun _ => rfl

theorem keeps_bind {x : ExportM α} {f : α → ExportM β} (hx : Keeps view x) (hf : ∀ a, Keeps view (f a)) :
    Keeps view (x >>= f) := by
  intro e
  rcases h : x.exec e with ⟨a | a, e'⟩
  · rw [exec_bind_error h, ← hx e, h]
  · rw [exec_bind_ok h, hf a e', ← hx e, h]

/-- An action that reads the state first keeps a view when it does for the
state it read. -/
theorem keeps_get_bind {k : Exporter → ExportM α} (h : ∀ e, view ((k e).exec e).2 = view e) :
    Keeps view (get >>= k) := fun e => by rw [exec_get_bind, h e]

theorem keeps_attempt {m : ExportM α} (h : Keeps view m) : Keeps view (attempt m) := fun e => by
  rw [exec_attempt, h e]

theorem keeps_ite {c : Prop} [Decidable c] {x y : ExportM α} (hx : Keeps view x) (hy : Keeps view y) :
    Keeps view (if c then x else y) := by
  split
  · exact hx
  · exact hy

end Keeps

end ExportM

namespace Exporter

open ExportM

/-- The job queue and the settings that name the worker's queue. -/
def queueSide (e : Exporter) : MemoryQueue × Config.QueueSettings := (e.queue, e.queueSettings)

theorem withStore_keepsQueueSide (f : Store.RecordStore → Store.Outcome α) : Keeps queueSide (withStore f) :=
  keeps_get_bind fun e => by simp [queueSide]

theorem find_keepsQueueSide (id : Int) : Keeps queueSide (find id) := by
  unfold find
  refine keeps_bind (withStore_keepsQueueSide _) fun found => ?_
  cases found
  · exact keeps_throw _
  · exact keeps_pure _

theorem fetchChunk_keepsQueueSide (src : Query.QuerySource) (size offset : Nat) :
    Keeps queueSide (fetchChunk src size offset) :=
  keeps_get_bind fun e => by simp [queueSide]

theorem fetchAll_keepsQueueSide (src : Query.QuerySource) : Keeps queueSide (fetchAll src) :=
  keeps_get_bind fun e => by simp [queueSide]

theorem streamChunks_keepsQueueSide (id : Int) (src : Query.QuerySource) (size : Nat) :
    ∀ fuel offset sink, Keeps queueSide (streamChunks id src size fuel offset sink)
  | 0, _, _ => keeps_pure _
  | fuel + 1, offset, sink => by
    unfold streamChunks
    refine keeps_bind (fetchChunk_keepsQueueSide _ _ _) fun batch => keeps_ite (keeps_pure _) ?_
    refine keeps_bind (withStore_keepsQueueSide _) fun _ => keeps_ite (keeps_pure _) ?_
    exact streamChunks_keepsQueueSide id src size fuel _ _

theorem rowBound_keepsQueueSide (src : Query.QuerySource) : Keeps queueSide (rowBound src) := by
  unfold rowBound
  cases src <;> exact keeps_pure _

theorem streamAll_keepsQueueSide (id : Int) (src : Query.QuerySource) (sink : CsvSink) :
    Keeps queueSide (streamAll id src sink) := by
  unfold streamAll
  refine keeps_bind (fetchAll_keepsQueueSide _) fun rows => ?_
  refine keeps_bind (withStore_keepsQueueSide _) fun _ => ?_
  exact keeps_bind (withStore_keepsQueueSide _) fun _ => keeps_pure _

theorem withFiles_keepsQueueSide (f : FileTree → Except StorageError (FileTree × α)) :
    Keeps queueSide (withFiles f) :=
  keeps_get_bind fun e => by
    cases f e.files with
    | ok r => simp [queueSide]
    | error err => simp [queueSide]

theorem openStaging_keepsQueueSide : Keeps queueSide openStaging :=
  keeps_get_bind fun e => by
    cases e.files.createDirAll e.staging with
    | ok t => simp [queueSide]
    | error err => simp [queueSide]

theorem stage_keepsQueueSide (avoid : List TreePath) (text : String) : Keeps queueSide (stage avoid text) := by
  unfold stage
  refine keeps_get_bind fun e => ?_
  simp only [exec_set_bind]
  split <;> simp [queueSide]

theorem publish_keepsQueueSide (disk : FilesystemDisk) (desc : ReportDescriptor) (staged : TreePath) :
    Keeps queueSide (publish disk desc staged) := by
  unfold publish
  refine keeps_bind keeps_get fun _ => keeps_bind (keeps_attempt ?_) fun moved => ?_
  · refine keeps_bind (withFiles_keepsQueueSide _) fun present => ?_
    dsimp only
    exact keeps_ite (withFiles_keepsQueueSide _) (keeps_bind (withFiles_keepsQueueSide _) fun _ => withFiles_keepsQueueSide _)
  · exact keeps_bind (fun e => rfl) fun _ => keeps_fromExcept _

theorem execute_keepsQueueSide (record : ExportRecord) : Keeps queueSide (execute record) := by
  unfold execute
  refine keeps_bind keeps_get fun e => ?_
  refine keeps_bind (keeps_fromExcept _) fun desc => keeps_bind (keeps_fromExcept _) fun definition => ?_
  refine keeps_bind (keeps_fromExcept _) fun src => keeps_bind (keeps_fromExcept _) fun disk => ?_
  refine keeps_bind openStaging_keepsQueueSide fun _ => ?_
  have finish : ∀ sink : CsvSink, Keeps queueSide (do
      let staged ← stage (disk.filePath desc.outputPath).toOption.toList sink.text
      publish disk desc staged
      pure sink.rows) := fun sink =>
    keeps_bind (stage_keepsQueueSide _ _) fun staged => keeps_bind (publish_keepsQueueSide _ _ _) fun _ => keeps_pure _
  dsimp only
  cases desc.mode
  · exact keeps_bind (rowBound_keepsQueueSide _) fun _ =>
      keeps_bind (streamChunks_keepsQueueSide _ _ _ _ _ _) finish
  · exact keeps_bind (streamAll_keepsQueueSide _ _ _) finish

theorem complete_keepsQueueSide (id : Int) : Keeps queueSide (complete id) := by
  unfold complete
  refine keeps_bind keeps_get fun e => ?_
  split
  · exact withStore_keepsQueueSide _
  · exact keeps_bind (withStore_keepsQueueSide _) fun _ => withStore_keepsQueueSide _
  · exact keeps_throw _

theorem recordFailure_keepsQueueSide (id : Int) (message : String) : Keeps queueSide (recordFailure id message) :=
  keeps_bind (keeps_attempt (withStore_keepsQueueSide _)) fun _ => keeps_pure _

theorem discardArtifact_keepsQueueSide (record : ExportRecord) : Keeps queueSide (discardArtifact record) :=
  keeps_get_bind fun e => by
    split <;> simp [queueSide]

/-- The rest of a started run never touches the job queue. -/
theorem runStarted_keepsQueueSide (id : Int) (record : ExportRecord) : Keeps queueSide (runStarted id record) := by
  unfold runStarted
  refine keeps_bind (keeps_attempt (execute_keepsQueueSide record)) fun executed => ?_
  cases executed with
  | error err => exact keeps_bind (recordFailure_keepsQueueSide _ _) fun _ => keeps_throw _
  | ok rows =>
    refine keeps_bind (keeps_attempt (complete_keepsQueueSide id)) fun completed => ?_
    rcases completed with err | _ | _
    · exact keeps_bind (discardArtifact_keepsQueueSide _) fun _ =>
        keeps_bind (recordFailure_keepsQueueSide _ _) fun _ => keeps_throw _
    · exact keeps_bind (discardArtifact_keepsQueueSide _) fun _ =>
        keeps_bind (keeps_bind (find_keepsQueueSide id) fun _ => keeps_pure _) fun _ => keeps_throw _
    · exact find_keepsQueueSide id

/-- A run never touches the job queue. -/
theorem run_keepsQueueSide (id : Int) : Keeps queueSide (run id) := by
  unfold run
  refine keeps_bind (find_keepsQueueSide id) fun record => keeps_bind (withStore_keepsQueueSide _) fun started => ?_
  dsimp only
  -- a refused start throws before anything else runs
  exact keeps_ite (runStarted_keepsQueueSide id record) keeps_throw_bind

/-- The worker's failure hook never touches the job queue. -/
theorem markUnfinishedFailed_keepsQueueSide (id : Int) (error : String) :
    Keeps queueSide (markUnfinishedFailed id error) := by
  unfold markUnfinishedFailed
  refine keeps_bind (keeps_attempt (withStore_keepsQueueSide _)) fun found => ?_
  split
  · exact keeps_ite (keeps_bind (keeps_attempt (withStore_keepsQueueSide _)) fun _ => keeps_pure _) (keeps_pure _)
  · exact keeps_pure _

end Exporter

end ReportExport
