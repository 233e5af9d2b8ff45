import DicePipeline.Remediation.Database

/-!
# What one operation can change

`Effect i s op t` lists every way an operation of connection `i` can turn the
store `s` into `t`, with the guards that were checked on the way.
`execute_effect` is the one inversion of `execute`; invariants of the store are
proved by cases on `Effect` and never unfold `execute`.

`answered` is the companion for answers: what every answer satisfies, whatever
the store was.
-/

namespace DicePipeline

open Interaction

/-- The ways an operation of connection `i` changes the store `s`. -/
inductive Effect (i : ℕ) (s : Store) : Op → Store → Prop
  | unchanged (op : Op) : Effect i s op s
  | saved {id : ℕ} {fields : RemediationUpdate} {row : Remediation} :
      s.row id = some row →
      (fields.status.isUnfinished = true → row.status.isFinished = true →
        s.clashes i id row.serviceAccount row.contentHash = false ∧
          s.awaits i row.serviceAccount row.contentHash = false) →
      Effect i s (.saveRemediation id fields) (s.updateRow id fields.apply)
  | looked {account : ℕ} {contentHash : String} :
      Effect i s (.latestForDocument account contentHash)
        { s with
          lookups := Function.update s.lookups i (s.latest account contentHash) }
  | locked {account : ℕ} :
      s.locks account = none →
      Effect i s (.lockAccount account)
        { s with locks := Function.update s.locks account (some i) }
  | inserted {new : NewRemediation} :
      s.clashes i s.nextId new.serviceAccount new.contentHash = false →
      s.awaits i new.serviceAccount new.contentHash = false →
      Effect i s (.insertRemediation new)
        { s with
          pending := s.pending ++ [(i, new.toRow s.nextId)]
          nextId := s.nextId + 1 }
  | committed : Effect i s .commit (s.endTransaction i true)
  | abandoned : Effect i s .commit (s.endTransaction i false)
  | rolledBack : Effect i s .rollback (s.endTransaction i false)
  | claimed {id : ℕ} {lastEnqueuedAt : Option ℕ} {now : ℕ} {row : Remediation} :
      s.row id = some row → row.status.isUnfinished = true →
      row.lastEnqueuedAt = lastEnqueuedAt →
      Effect i s (.claimEnqueue id lastEnqueuedAt now)
        (s.updateRow id fun row => { row with lastEnqueuedAt := some now })
  | recorded {id : ℕ} {step : Step} {artifact : RemediationArtifact} :
      artifact.outputUri.fits = true →
      Effect i s (.upsertArtifact id step artifact)
        { s with
          artifacts := Function.update s.artifacts id
            (Function.update (s.artifacts id) step (some artifact)) }
  | judged {id : ℕ} {step : Step} {result : VerificationResult} :
      s.results id step = none →
      Effect i s (.createVerificationResult id step result)
        { s with
          results := Function.update s.results id
            (Function.update (s.results id) step (some result)) }
  | scored {id : ℕ} {score : RemediationScore} :
      s.scores id = none →
      Effect i s (.createScore id score)
        { s with scores := Function.update s.scores id (some score) }
  | subscribed {remediation : Remediation} {callbackUrl : String} :
      Effect i s (.getOrCreateCallback remediation callbackUrl)
        { s with
          callbacks := s.callbacks ++ [⟨s.nextId, remediation.id, callbackUrl⟩]
          nextId := s.nextId + 1 }
  | queued {id : ℕ} :
      Effect i s (.enqueueProcess id) { s with processTasks := id :: s.processTasks }
  | notified {callback : ℕ} :
      Effect i s (.enqueueWebhook callback)
        { s with webhookTasks := callback :: s.webhookTasks }
  | deleted {uri : Uri} :
      Effect i s (.storageDelete uri)
        { s with objects := Function.update s.objects uri none }
  | stored {uri dest : Uri} {bytes : Bytes} :
      dest = uri ∨ (∃ name, dest = uri.withFilename name) ∧ s.objects dest = none →
      Effect i s (.storageSave uri bytes)
        { s with objects := Function.update s.objects dest (some bytes) }

variable {settings : Settings} {world : World} {i : ℕ} {op : Op} {s t : Store}
variable {r : Except Exn op.Ans}

/-- Nothing is written where the outcome keeps the store. -/
private theorem Effect.of_kept {outcome : Except Exn op.Ans}
    (h : some (outcome, s) = some (r, t)) : Effect i s op t := by
  obtain ⟨-, rfl⟩ := Prod.mk.inj (Option.some.inj h)
  exact .unchanged op

/-- An outcome that leaves `u` is one effect if turning `s` into `u` is. -/
private theorem Effect.of_left {outcome : Except Exn op.Ans} {u : Store}
    (h : some (outcome, u) = some (r, t)) (effect : Effect i s op u) : Effect i s op t := by
  obtain ⟨-, rfl⟩ := Prod.mk.inj (Option.some.inj h)
  exact effect

theorem perform_effect (h : perform settings world i op s = some (r, t)) :
    Effect i s op t := by
  cases op with
  | now => exact .of_kept h
  | getRemediation id =>
      simp only [perform] at h
      split at h <;> exact .of_kept h
  | saveRemediation id fields =>
      simp only [perform] at h
      split at h
      · exact .of_kept h
      -- The update enters the unique key only if the status turns unfinished, so a clash
      -- and a wait for another's insert are possible then only.
      · rename_i row found
        split at h
        · exact .of_kept h
        · split at h
          · split at h
            · exact .of_kept h
            · split at h
              · cases h
              · rename_i noClash noWait
                exact .of_left h (.saved found fun _ _ => ⟨by simpa using noClash, by simpa using noWait⟩)
          -- The status stays on its side of the key: nothing is checked.
          · rename_i keeps
            refine .of_left h (.saved found fun enters leaves => ?_)
            rw [enters, leaves] at keeps
            exact absurd rfl keeps
  | latestForDocument account contentHash => exact .of_left h .looked
  | pipelineConfig => exact .of_kept h
  | lockAccount account =>
      simp only [perform] at h
      split at h
      · exact .of_left h (.locked ‹_›)
      · split at h
        · exact .of_kept h
        · cases h
  | recentSubmissions account since => exact .of_kept h
  | insertRemediation new =>
      simp only [perform] at h
      split at h
      · exact .of_kept h
      · split at h
        · exact .of_kept h
        · split at h
          · cases h
          -- Past the checks of the columns, the index and the waits, the row goes in.
          · rename_i noClash noWait
            exact .of_left h (.inserted (by simpa using noClash) (by simpa using noWait))
  | commit => exact .of_left h .committed
  | rollback => exact .of_left h .rolledBack
  | claimEnqueue id lastEnqueuedAt now =>
      simp only [perform] at h
      split at h
      · exact .of_kept h
      -- The compare-and-set: what matched is the stored row, not the one that was read.
      · rename_i row found
        split at h
        · rename_i matched
          simp only [Bool.and_eq_true, decide_eq_true_eq] at matched
          exact .of_left h (.claimed found matched.1 matched.2)
        · exact .of_kept h
  | completedOutputUri id step =>
      simp only [perform] at h
      split at h
      · split at h <;> exact .of_kept h
      · exact .of_kept h
  | upsertArtifact id step artifact =>
      simp only [perform] at h
      split at h
      · exact .of_kept h
      · rename_i fits
        exact .of_left h (.recorded (by simpa using fits))
  | createVerificationResult id step result =>
      simp only [perform] at h
      split at h
      · exact .of_kept h
      · split at h
        · exact .of_kept h
        · exact .of_left h (.judged ‹_›)
  | getVerificationResult id step =>
      simp only [perform] at h
      split at h <;> exact .of_kept h
  | createScore id score =>
      simp only [perform] at h
      split at h
      · exact .of_kept h
      · split at h
        · exact .of_kept h
        · exact .of_left h (.scored ‹_›)
  | getOrCreateCallback remediation callbackUrl =>
      simp only [perform] at h
      split at h
      · exact .of_kept h
      · split at h
        · exact .of_kept h
        · exact .of_left h .subscribed
  | callbackIds id => exact .of_kept h
  | enqueueProcess id => exact .of_left h .queued
  | enqueueWebhook callback => exact .of_left h .notified
  | storageExists uri => exact .of_kept h
  | storageDelete uri => exact .of_left h .deleted
  | storageSave uri bytes =>
      simp only [perform] at h
      split at h
      · exact .of_left h (.stored (.inl rfl))
      · split at h
        -- A save whose name was taken goes to a name that is free.
        · rename_i free
          exact .of_left h (.stored (.inr ⟨⟨_, rfl⟩, by simpa using free⟩))
        · cases h
  | storageOpen uri =>
      simp only [perform] at h
      split at h <;> exact .of_kept h
  | adapter call => exact .of_kept h

/-- **The inversion of `execute`.** -/
theorem execute_effect (h : execute settings world i op s = some (r, t)) :
    Effect i s op t := by
  rw [execute] at h
  split at h
  · cases op with
    | commit => exact .of_left h .abandoned
    | _ => exact .of_kept h
  · exact perform_effect h

/-- An operation that answered was performed. -/
theorem execute_ok {answer : op.Ans}
    (h : execute settings world i op s = some (.ok answer, t)) :
    perform settings world i op s = some (.ok answer, t) := by
  rw [execute] at h
  split at h
  · cases h
  · exact h

theorem perform_error {exc : Exn}
    (h : perform settings world i op s = some (.error exc, t)) : t = s := by
  -- Each outcome is an answer, or keeps the store, or is none.
  cases op <;> simp only [perform] at h <;> (repeat' split at h) <;> first
    | exact (Prod.mk.inj (Option.some.inj h)).2.symm
    | exact nomatch (Prod.mk.inj (Option.some.inj h)).1
    | cases h

/-- An operation that raised left the store as it was, but for a failed commit. -/
theorem execute_error {exc : Exn}
    (h : execute settings world i op s = some (.error exc, t)) : t = s ∨ op = .commit := by
  rw [execute] at h
  split at h
  · cases op with
    | commit => exact .inr rfl
    | _ => exact .inl (Prod.mk.inj (Option.some.inj h)).2.symm
  · exact .inl (perform_error h)

/-! ## What an operation leaves alone -/

namespace Store

private theorem row_updateRow {s : Store} {id : ℕ} {f : Remediation → Remediation}
    (kept : ∀ row, (f row).id = row.id) (a : ℕ) :
    (s.updateRow id f).row a = (s.row a).map fun row => if row.id = id then f row else row := by
  have same : (fun row => decide (Remediation.id row = a)) ∘
      (fun row => if row.id = id then f row else row) = fun row => decide (row.id = a) := by
    funext row
    by_cases hit : row.id = id
    · simp [hit, kept]
    · simp [hit]
  rw [row, updateRow, List.find?_map, same]
  rfl

theorem row_id {s : Store} {id : ℕ} {row : Remediation} (found : s.row id = some row) :
    row.id = id := by
  simpa using List.find?_some found

/-- Rewriting a row rewrites what its key looks up. -/
theorem row_updateRow_self {s : Store} {id : ℕ} {f : Remediation → Remediation}
    {row : Remediation} (kept : ∀ row, (f row).id = row.id) (found : s.row id = some row) :
    (s.updateRow id f).row id = some (f row) := by
  rw [row_updateRow kept, found, Option.map_some, if_pos (row_id found)]

/-- And nothing else. -/
theorem row_updateRow_of_ne {s : Store} {id a : ℕ} {f : Remediation → Remediation}
    (kept : ∀ row, (f row).id = row.id) (different : a ≠ id) :
    (s.updateRow id f).row a = s.row a := by
  rw [row_updateRow kept]
  cases found : s.row a with
  | none => rfl
  | some row => rw [Option.map_some, if_neg fun hit => different ((row_id found).symm.trans hit)]

/-- A committed attempt stays where it is at the end of a transaction. -/
theorem row_endTransaction {s : Store} {a : ℕ} {row : Remediation} (found : s.row a = some row)
    (i : ℕ) (keep : Bool) : (s.endTransaction i keep).row a = some row := by
  cases keep with
  | true => exact List.find?_append.trans (by rw [Store.row] at found; rw [found]; rfl)
  | false => exact found

end Store

namespace Effect

theorem clock (h : Effect i s op t) : t.clock = s.clock := by cases h <;> rfl

theorem pipelineConfig (h : Effect i s op t) : t.pipelineConfig = s.pipelineConfig := by
  cases h <;> rfl

/-- Primary keys are not given back. -/
theorem nextId_le (h : Effect i s op t) : s.nextId ≤ t.nextId := by
  cases h <;> first | exact Nat.le_refl _ | exact Nat.le_succ _

/-- A committed attempt stays, and only `save` writes more of it than the time
it was last queued. -/
theorem row (h : Effect i s op t) {a : ℕ} {row : Remediation} (found : s.row a = some row) :
    (∃ fields, op = .saveRemediation a fields ∧ t.row a = some (fields.apply row)) ∨
      ∃ enqueued, t.row a = some { row with lastEnqueuedAt := enqueued } := by
  cases h with
  | @saved id fields _ _ _ =>
      by_cases same : a = id
      · subst same
        exact .inl ⟨fields, rfl, Store.row_updateRow_self (fun _ => rfl) found⟩
      · refine .inr ⟨row.lastEnqueuedAt, Eq.trans ?_ found⟩
        exact Store.row_updateRow_of_ne (fun _ => rfl) same
  | @claimed id _ now _ _ _ _ =>
      by_cases same : a = id
      · subst same
        exact .inr ⟨some now, Store.row_updateRow_self (fun _ => rfl) found⟩
      · refine .inr ⟨row.lastEnqueuedAt, Eq.trans ?_ found⟩
        exact Store.row_updateRow_of_ne (fun _ => rfl) same
  | committed => exact .inr ⟨_, Store.row_endTransaction found i true⟩
  | abandoned => exact .inr ⟨_, Store.row_endTransaction found i false⟩
  | rolledBack => exact .inr ⟨_, Store.row_endTransaction found i false⟩
  | _ => exact .inr ⟨_, found⟩

end Effect

/-! ## Answers -/

namespace Store

theorem row_mem {s : Store} {id : ℕ} {row : Remediation} (found : s.row id = some row) :
    row ∈ s.remediations := List.mem_of_find?_eq_some found

theorem latest_mem {s : Store} {account : ℕ} {contentHash : String} {row : Remediation}
    (found : s.latest account contentHash = some row) :
    row ∈ s.remediations ∧ row.isFor account contentHash = true :=
  List.mem_filter.mp (List.argmax_mem found)

end Store

/-- What every answer of an operation satisfies, whatever the store. -/
def answered : (op : Op) → Except Exn op.Ans → Prop
  | _, .error exc => exc.isRaisedByCode = false
  | .getRemediation id, .ok row => Remediation.id row = id
  | .latestForDocument account contentHash, .ok found =>
      ∀ row, found = some row → row.isFor account contentHash = true
  | .insertRemediation new, .ok row => ∃ id, row = NewRemediation.toRow new id
  | .getOrCreateCallback remediation callbackUrl, .ok made =>
      RemediationCallback.remediation (Prod.fst made) = remediation.id ∧
        RemediationCallback.callbackUrl (Prod.fst made) = callbackUrl
  | .storageSave uri _, .ok dest => dest = uri ∨ ∃ name, dest = uri.withFilename name
  | _, .ok _ => True

/-- An error from outside is never one the code raises. -/
theorem World.failure_raisedByCode {exc : Exn} (failed : world.failure op = some exc) :
    exc.isRaisedByCode = false := by
  have database : ∀ {message : Option String},
      message.map Exn.operationalError = some exc → exc.isRaisedByCode = false := by
    intro message isSome
    obtain ⟨_, -, rfl⟩ := Option.map_eq_some_iff.mp isSome
    rfl
  have storage : ∀ {message : Option String},
      message.map Exn.other = some exc → exc.isRaisedByCode = false := by
    intro message isSome
    obtain ⟨_, -, rfl⟩ := Option.map_eq_some_iff.mp isSome
    rfl
  cases op <;> first | exact database failed | exact storage failed | cases failed

private theorem answered_of {outcome : Except Exn op.Ans} {u : Store}
    (h : some (outcome, u) = some (r, t)) (holds : answered op outcome) : answered op r := by
  obtain ⟨rfl, -⟩ := Prod.mk.inj (Option.some.inj h)
  exact holds

theorem perform_answered (h : perform settings world i op s = some (r, t)) :
    answered op r := by
  cases op with
  | getRemediation id =>
      simp only [perform] at h
      split at h
      · exact answered_of h (Store.row_id ‹_›)
      · exact answered_of h rfl
  | saveRemediation id fields =>
      simp only [perform] at h
      repeat' split at h
      all_goals first | exact answered_of h rfl | exact answered_of h trivial | cases h
  | latestForDocument account contentHash =>
      exact answered_of h fun row found => (Store.latest_mem found).2
  | lockAccount account =>
      simp only [perform] at h
      repeat' split at h
      all_goals first | exact answered_of h trivial | cases h
  | insertRemediation new =>
      simp only [perform] at h
      split at h
      · rename_i exc refused
        -- A row that does not fit is refused with the one error that `fits` gives for it.
        refine answered_of h ?_
        simp only [NewRemediation.fits] at refused
        repeat' split at refused
        all_goals first | cases refused; rfl | cases refused
      · repeat' split at h
        all_goals first | exact answered_of h rfl | exact answered_of h ⟨_, rfl⟩ | cases h
  | claimEnqueue id lastEnqueuedAt now =>
      simp only [perform] at h
      repeat' split at h
      all_goals exact answered_of h trivial
  | completedOutputUri id step =>
      simp only [perform] at h
      repeat' split at h
      all_goals exact answered_of h trivial
  | upsertArtifact id step artifact =>
      simp only [perform] at h
      split at h
      · exact answered_of h rfl
      · exact answered_of h trivial
  | createVerificationResult id step result =>
      simp only [perform] at h
      repeat' split at h
      all_goals first | exact answered_of h rfl | exact answered_of h trivial
  | getVerificationResult id step =>
      simp only [perform] at h
      split at h
      · exact answered_of h trivial
      · exact answered_of h rfl
  | createScore id score =>
      simp only [perform] at h
      repeat' split at h
      all_goals first | exact answered_of h rfl | exact answered_of h trivial
  | getOrCreateCallback remediation callbackUrl =>
      simp only [perform] at h
      split at h
      · rename_i callback found
        -- The row that was found is for the same attempt and the same URL.
        have same : callback.remediation = remediation.id ∧
            callback.callbackUrl = callbackUrl := by simpa using List.find?_some found
        exact answered_of h same
      · split at h
        · exact answered_of h rfl
        · exact answered_of h ⟨rfl, rfl⟩
  | storageSave uri bytes =>
      simp only [perform] at h
      split at h
      · exact answered_of h (.inl rfl)
      · split at h
        · exact answered_of h (.inr ⟨_, rfl⟩)
        · cases h
  | storageOpen uri =>
      simp only [perform] at h
      split at h
      · exact answered_of h trivial
      · exact answered_of h rfl
  | adapter call =>
      refine answered_of h ?_
      cases world.adapter call <;> first | rfl | trivial
  | _ => exact answered_of h trivial

/-- **What every answer satisfies.** -/
theorem execute_answered (h : execute settings world i op s = some (r, t)) :
    answered op r := by
  rw [execute] at h
  split at h
  · exact answered_of h (World.failure_raisedByCode ‹_›)
  · exact perform_answered h

end DicePipeline
