import DicePipeline.Delivery.Service
import DicePipeline.Interaction.Traces

/-!
# What a statement of the service does

`ServiceEffect` lists what one operation of a task or a view answers and writes:
a delivery is recorded, a task is queued, and nothing else is written.
`ServiceOp.answered` is what every answer satisfies, whatever the store was.

The pipeline moves by itself: the configuration in the store of a reachable service
is a reachable configuration of the pipeline's system (`cluster_reached`).
-/

namespace DicePipeline

open Interaction Program

/-- An operation that reads a table or a file. -/
def ServiceOp.IsLookup : ServiceOp → Prop
  | .getCallback _ => True
  | .verificationResults _ => True
  | .latestForDocument _ _ => True
  | .storageOpen _ => True
  | _ => False

/-- What an operation of thread `i` answers and does. -/
inductive ServiceEffect (webhooks : WebhookSettings) (i : ℕ) (s : ServiceStore) :
    (op : ServiceOp) → Except ServiceExn op.Ans → ServiceStore → Prop
  | timed : ServiceEffect webhooks i s .now (.ok s.cluster.store.clock) s
  | looked {op : ServiceOp} (answer : Except ServiceExn op.Ans) :
      op.IsLookup → ServiceEffect webhooks i s op answer s
  | notified {task : Notification} {callbackUrl secret : String} {payload : Payload}
      {delivery : Delivery} (surroundings : Surroundings) :
      delivery = Delivery.of webhooks surroundings i s.cluster.store.clock task callbackUrl secret
        payload →
      ServiceEffect webhooks i s (.notify task callbackUrl secret payload)
        (delivery.outcome.mapError .notify)
        { s with deliveries := delivery :: s.deliveries }
  | queued {task : Notification} {runAfter : Option ℕ} :
      ServiceEffect webhooks i s (.enqueueRetry task runAfter) (.ok ())
        { s with retries := ⟨i, task, runAfter⟩ :: s.retries }
  | unqueued {task : Notification} {runAfter : Option ℕ} (exc : Exn) :
      ServiceEffect webhooks i s (.enqueueRetry task runAfter) (.error (.raised exc)) s

/-- What every answer of an operation satisfies, whatever the store. -/
def ServiceOp.answered : (op : ServiceOp) → Except ServiceExn op.Ans → Prop
  | .notify _ _ _ _, .error exc => ∃ error, exc = .notify error
  | _, .error exc => ∃ error, exc = .raised error
  | .getCallback id, .ok read =>
      RemediationCallback.id (Prod.fst read) = id ∧
        Remediation.id (Prod.fst (Prod.snd read)) =
          RemediationCallback.remediation (Prod.fst read)
  | .latestForDocument account contentHash, .ok found =>
      ∀ row, found = some row → row.isFor account contentHash = true
  | _, .ok _ => True

section Steps

variable {settings : Settings} {acceptsUrl : String → Bool} {webhooks : WebhookSettings}
variable {surroundings : Surroundings} {i : ℕ} {op : ServiceOp} {s t : ServiceStore}
variable {answer : Except ServiceExn op.Ans}

private theorem execute_lookup (lookup : op.IsLookup) :
    (s.execute webhooks surroundings i op).2 = s := by
  unfold ServiceStore.execute
  split
  · rfl
  · cases op <;> first
      | exact lookup.elim
      | rfl
      | (simp only [ServiceStore.perform]; repeat (split <;> try rfl))

/-- **What one operation does.** -/
theorem ServiceStore.execute_effect
    (executed : (service settings acceptsUrl webhooks).exec surroundings i op s = some (answer, t)) :
    ServiceEffect webhooks i s op answer t := by
  have pair := Option.some.inj executed
  have first : (s.execute webhooks surroundings i op).1 = answer := congrArg Prod.fst pair
  have second : (s.execute webhooks surroundings i op).2 = t := congrArg Prod.snd pair
  have looks : op.IsLookup → ServiceEffect webhooks i s op answer t := by
    intro lookup
    rw [execute_lookup lookup] at second
    subst second
    exact .looked answer lookup
  cases op with
  | now =>
      subst first second
      exact .timed
  | notify task callbackUrl secret payload =>
      subst first second
      exact .notified surroundings rfl
  | enqueueRetry task runAfter =>
      unfold ServiceStore.execute at first second
      split at first
      · rename_i exc failed
        rw [failed] at second
        subst first second
        exact .unqueued exc
      · rename_i healthy
        rw [healthy] at second
        subst first second
        exact .queued
  | _ => exact looks trivial

/-- **What one operation promises.** -/
theorem ServiceStore.execute_answered
    (executed : (service settings acceptsUrl webhooks).exec surroundings i op s = some (answer, t)) :
    op.answered answer := by
  have first : (s.execute webhooks surroundings i op).1 = answer :=
    congrArg Prod.fst (Option.some.inj executed)
  subst first
  unfold ServiceStore.execute
  split
  · rename_i exc failed
    cases op <;> first | exact ⟨exc, rfl⟩ | cases failed
  · cases op with
    | getCallback id =>
        simp only [ServiceStore.perform]
        split
        · exact ⟨_, rfl⟩
        · split
          · exact ⟨_, rfl⟩
          · rename_i callback found _ remediation stored
            have isId := List.find?_some found
            exact ⟨by simpa using isId, Store.row_id stored⟩
    | latestForDocument account contentHash =>
        exact fun row found => (Store.latest_mem found).2
    | storageOpen uri =>
        simp only [ServiceStore.perform]
        split
        · trivial
        · exact ⟨_, rfl⟩
    | notify task callbackUrl secret payload =>
        simp only [ServiceStore.perform]
        cases (Delivery.of webhooks surroundings i s.cluster.store.clock task callbackUrl secret
            payload).outcome with
        | ok _ => trivial
        | error error => exact ⟨error, rfl⟩
    | _ => trivial

/-- The tasks and the views write nothing the pipeline reads, and no secret. -/
theorem ServiceEffect.cluster (effect : ServiceEffect webhooks i s op answer t) :
    t.cluster = s.cluster ∧ t.secrets = s.secrets := by
  cases effect <;> exact ⟨rfl, rfl⟩

/-- Deliveries and tasks are only ever added. -/
theorem ServiceEffect.grows (effect : ServiceEffect webhooks i s op answer t) :
    s.deliveries ⊆ t.deliveries ∧ s.retries ⊆ t.retries := by
  cases effect <;> first
    | exact ⟨List.Subset.refl _, List.Subset.refl _⟩
    | exact ⟨List.subset_cons_self _ _, List.Subset.refl _⟩
    | exact ⟨List.Subset.refl _, List.subset_cons_self _ _⟩

/-- A thread starts with the program of its role, and a task is ready then. -/
theorem service_start_eq {role : ServiceRole} {body : ServicePy Reply}
    (started : (service settings acceptsUrl webhooks).start role s = some body) :
    body = role.program webhooks ∧ ∀ task, role = .notify task → s.Ready task := by
  cases role with
  | notify task =>
      simp only [service] at started
      split at started
      · rename_i ready
        refine ⟨(Option.some.inj started).symm, ?_⟩
        rintro _ ⟨⟩
        exact ready
      · cases started
  | status account contentHash =>
      exact ⟨(Option.some.inj started).symm, fun task impossible => by cases impossible⟩
  | download account contentHash =>
      exact ⟨(Option.some.inj started).symm, fun task impossible => by cases impossible⟩

end Steps

/-! ## The pipeline inside -/

section Pipeline

variable {settings : Settings} {acceptsUrl : String → Bool} {webhooks : WebhookSettings}
variable {ok : ServiceCluster → ServiceChoice → Prop} {retryFloor : Option String}
variable {secret : ℕ → String} {c : ServiceCluster}

/-- A move of the environment is a choice of the pipeline's scheduler, or none. -/
theorem ServiceStore.move_cases (settings : Settings) (acceptsUrl : String → Bool)
    (move : ServiceMove) (s : ServiceStore) :
    (∃ choice after, (system settings acceptsUrl).next s.cluster choice = some after ∧
      s.move settings acceptsUrl move = { s with cluster := after }) ∨
    (∃ account secret, s.move settings acceptsUrl move =
      { s with secrets := Function.update s.secrets account (secret :: s.secrets account) }) ∨
    s.move settings acceptsUrl move = s := by
  cases move with
  | pipeline choice =>
      cases moved : (system settings acceptsUrl).next s.cluster choice with
      | none => exact .inr (.inr (by simp [ServiceStore.move, moved]))
      | some after => exact .inl ⟨choice, after, moved, by simp [ServiceStore.move, moved]⟩
  | regenerateSecret account secret => exact .inr (.inl ⟨account, secret, rfl⟩)

/-- **The pipeline of a reachable service is reachable.** -/
theorem cluster_reached
    (reached : (service settings acceptsUrl webhooks).Reach ok (launched retryFloor secret) c) :
    (system settings acceptsUrl).Reach (fun _ _ => True) (deployed retryFloor) c.store.cluster := by
  refine reached.invariant (fun c =>
    (system settings acceptsUrl).Reach (fun _ _ => True) (deployed retryFloor) c.store.cluster)
    .refl ?_
  intro c choice c' _ inner _ moved
  cases choice with
  | spawn role =>
      obtain ⟨body, -, rfl⟩ := Machine.next_spawn_eq moved
      simpa using inner
  | step i world =>
      obtain ⟨thread, answer, t, -, executed, rfl⟩ := Machine.next_step_eq moved
      rw [Config.place_store]
      exact (ServiceStore.execute_effect executed).cluster.1 ▸ inner
  | kill i =>
      obtain ⟨_, -, rfl⟩ := Machine.next_kill_eq moved
      exact inner
  | env move =>
      obtain rfl := Machine.next_env_eq moved
      change (system settings acceptsUrl).Reach _ _ (c.store.move settings acceptsUrl move).cluster
      rcases ServiceStore.move_cases settings acceptsUrl move c.store with
        ⟨choice, after, moved, same⟩ | ⟨account, secret, same⟩ | same
      · rw [same]
        exact .next choice inner trivial moved
      · rw [same]
        exact inner
      · rw [same]
        exact inner

end Pipeline

end DicePipeline
