import Mathlib.Algebra.BigOperators.Group.Finset.Basic
import Mathlib.Data.List.Nodup
import Mathlib.Data.List.Perm.Subperm
import DicePipeline.Delivery.Statements

/-!
# Retries back off

A failed delivery queues the next attempt, held back for
`WEBHOOK_BACKOFF_BASE_SECONDS * 2 ** (attempt - 1)` seconds, until
`MAX_WEBHOOK_ATTEMPTS` is reached.  The task is handed its attempt number by the queue,
reads the clock after the delivery has failed, and may be redelivered, killed, or run
beside another one, while the pipeline moves on.

`Course` is how far a run of the task is.  Behind every queued retry there is a failed
delivery of the attempt before it (`Queue.retried`), and the two are apart by the
backoff; so behind every delivery there are failed ones of every attempt before it, at
times that double (`deliveries_back_off`).

### What is load-bearing

The thread of a delivery is what ties its retry to it: a run delivers once and queues
once, so two retries of one thread would be two of one delivery.  `Course` keeps that
while others run.

Where the queue cannot hold a task back, the next attempt is queued without a time.
The spacing is then left out of the statement, and the numbering is not.

How often a task is handed out matters to `notified_once` only.  Each time it is, a
delivery can be made, and two of them can succeed.
-/

namespace DicePipeline

open Interaction Program

/-- How far a run of `send_webhook_notification` is. -/
inductive Course where
  /-- It has not called `notify`. -/
  | unsent
  /-- `notify` has raised a `WebhookDeliveryError`. -/
  | failed (task : Notification)
  /-- And the clock has been read. -/
  | timed (task : Notification) (now : ℕ)
  /-- Nothing is left to queue. -/
  | settled
  deriving DecidableEq

namespace Course

/-- Moves on by one answer. -/
def after : Course → (op : ServiceOp) → Except ServiceExn op.Ans → Course
  | .unsent, .notify task _ _ _, .error (.notify (.webhookDelivery _)) => .failed task
  | .unsent, .notify _ _ _ _, _ => .settled
  | .failed task, .now, .ok now => .timed task now
  | _, .enqueueRetry _ _, _ => .settled
  | x, _, _ => x

/-- A delivery is of the thread's own task, and the first one.  A retry follows a failed
delivery, by the backoff if the queue can hold it back. -/
def Permits (webhooks : WebhookSettings) (role : ServiceRole) (x : Course) : ServiceOp → Prop
  | .notify task _ _ _ => role = .notify task ∧ x = .unsent
  | .enqueueRetry next runAfter => ∃ task, next = ⟨task.callback, task.attempt + 1⟩ ∧
      task.attempt < webhooks.maxAttempts ∧
        ((webhooks.supportsDefer = false ∧ x = .failed task ∧ runAfter = none) ∨
          ∃ now, x = .timed task now ∧
            runAfter = some (now + seconds (backoffSeconds webhooks task.attempt)))
  | _ => True

end Course

section Programs

variable {webhooks : WebhookSettings} {role : ServiceRole} {x : Course}

/-- Programs that deliver once and retry a failed delivery. -/
abbrev Courses (webhooks : WebhookSettings) (role : ServiceRole) {α : Type}
    (p : ServicePy α) (x : Course) : Prop :=
  p.Tracks Course.after ServiceOp.answered (Course.Permits webhooks role) (fun _ _ => True) x

private theorem enqueue_courses {next : Notification} {runAfter : Option ℕ}
    (permitted : x.Permits webhooks role (.enqueueRetry next runAfter)) :
    Courses webhooks role ((ask (.enqueueRetry next runAfter)).bind fun _ => .done (.ok Reply.nothing))
      x := by
  refine ⟨permitted, fun answer _ => ?_⟩
  cases answer <;> trivial

private theorem retryLater_courses (task : Notification) (error : NotifyError) :
    Courses webhooks role (retryLater webhooks task error) (.failed task) := by
  unfold retryLater
  split
  · trivial
  · rename_i fewer
    have below : task.attempt < webhooks.maxAttempts := Nat.lt_of_not_le fewer
    split
    · refine ⟨trivial, fun answer _ => ?_⟩
      cases answer with
      | error exc => trivial
      | ok now => exact enqueue_courses ⟨task, rfl, below, .inr ⟨now, rfl, rfl⟩⟩
    · rename_i immediate
      exact enqueue_courses ⟨task, rfl, below, .inl ⟨by simpa using immediate, rfl, rfl⟩⟩

/-- **The task delivers once, and retries what failed.** -/
theorem sendWebhookNotification_courses (webhooks : WebhookSettings) (task : Notification) :
    Courses webhooks (.notify task) (sendWebhookNotification webhooks task) .unsent := by
  refine ⟨trivial, fun answer _ => ?_⟩
  cases answer with
  | error exc => trivial
  | ok read =>
      refine ⟨trivial, fun answer _ => ?_⟩
      cases answer with
      | error exc => trivial
      | ok results =>
          refine ⟨⟨rfl, rfl⟩, fun answer promised => ?_⟩
          cases answer with
          | ok _ => trivial
          | error exc =>
              obtain ⟨error, rfl⟩ := promised
              cases error with
              | webhookDelivery message => exact retryLater_courses task _
              | raised error => trivial

private theorem status_courses (account : ServiceAccount) (contentHash : String) :
    Courses webhooks role (DocumentStatusView.get webhooks account contentHash) .unsent := by
  unfold DocumentStatusView.get
  split
  · trivial
  · refine ⟨trivial, fun answer _ => ?_⟩
    cases answer with
    | error exc => trivial
    | ok found =>
        cases found with
        | none => trivial
        | some row =>
            refine ⟨trivial, fun answer _ => ?_⟩
            cases answer <;> trivial

private theorem download_courses (account : ServiceAccount) (contentHash : String) :
    Courses webhooks role (DocumentDownloadView.get account contentHash) .unsent := by
  unfold DocumentDownloadView.get
  split
  · trivial
  · refine ⟨trivial, fun answer _ => ?_⟩
    cases answer with
    | error exc => trivial
    | ok found =>
        cases found with
        | none => trivial
        | some row =>
            refine Tracks.ite (fun _ => ⟨trivial, fun answer _ => ?_⟩) fun _ => trivial
            cases answer <;> trivial

theorem role_courses (webhooks : WebhookSettings) (role : ServiceRole) :
    Courses webhooks role (role.program webhooks) .unsent := by
  cases role with
  | notify task => exact sendWebhookNotification_courses webhooks task
  | status account contentHash => exact status_courses account contentHash
  | download account contentHash => exact download_courses account contentHash

end Programs

/-! ## What the queue and the deliveries say -/

/-- What a thread's course says of the deliveries so far. -/
def Course.Fits (i : ℕ) (s : ServiceStore) : Course → Prop
  | .unsent => (∀ delivery ∈ s.deliveries, delivery.thread ≠ i) ∧ ∀ retry ∈ s.retries, retry.thread ≠ i
  | .failed task => (∃ delivery ∈ s.deliveries, delivery.thread = i ∧ delivery.task = task ∧
      delivery.failed = true ∧ delivery.sentAt ≤ s.cluster.store.clock) ∧ ∀ retry ∈ s.retries, retry.thread ≠ i
  | .timed task now => (∃ delivery ∈ s.deliveries, delivery.thread = i ∧ delivery.task = task ∧
      delivery.failed = true ∧ delivery.sentAt ≤ now) ∧ ∀ retry ∈ s.retries, retry.thread ≠ i
  | .settled => True

/-- A failed delivery is followed up by the next attempt, not before the backoff has passed. -/
structure FollowedUp (webhooks : WebhookSettings) (delivery : Delivery) (next : Notification)
    (time : Option ℕ) : Prop where
  failed : delivery.failed = true
  isNext : next = ⟨delivery.task.callback, delivery.task.attempt + 1⟩
  limit : next.attempt ≤ webhooks.maxAttempts
  backoff : webhooks.supportsDefer = true → ∃ moment, time = some moment ∧
    delivery.sentAt + seconds (backoffSeconds webhooks delivery.task.attempt) ≤ moment

/-- Each thread delivers once and queues one retry, of what it has failed to deliver; and an
attempt after the first one follows a failed one. -/
structure Queue (webhooks : WebhookSettings) (s : ServiceStore) : Prop where
  delivers : (s.deliveries.map (·.thread)).Nodup
  queues : (s.retries.map (·.thread)).Nodup
  first : ∀ delivery ∈ s.deliveries, 1 ≤ delivery.task.attempt
  retried : ∀ retry ∈ s.retries, ∃ delivery ∈ s.deliveries, delivery.thread = retry.thread ∧
    FollowedUp webhooks delivery retry.task retry.runAfter
  preceded : ∀ delivery ∈ s.deliveries, delivery.task.attempt ≠ 1 →
    ∃ earlier ∈ s.deliveries, FollowedUp webhooks earlier delivery.task (some delivery.sentAt)

section Steps

variable {webhooks : WebhookSettings} {i j : ℕ} {op : ServiceOp} {s t : ServiceStore} {x : Course}
variable {answer : Except ServiceExn op.Ans} {role : ServiceRole}

/-- What another thread does leaves a course as it is. -/
theorem Course.Fits.others (fits : x.Fits j s) (effect : ServiceEffect webhooks i s op answer t)
    (different : j ≠ i) : x.Fits j t := by
  have quiet : (∀ retry ∈ s.retries, retry.thread ≠ j) → ∀ retry ∈ t.retries, retry.thread ≠ j := by
    intro before retry member
    cases effect with
    | queued =>
        rcases List.mem_cons.mp member with rfl | old
        · exact Ne.symm different
        · exact before retry old
    | _ => exact before retry member
  have unsent : (∀ delivery ∈ s.deliveries, delivery.thread ≠ j) →
      ∀ delivery ∈ t.deliveries, delivery.thread ≠ j := by
    intro before delivery member
    cases effect with
    | notified surroundings isDelivery =>
        rcases List.mem_cons.mp member with rfl | old
        · rw [isDelivery]
          exact Ne.symm different
        · exact before delivery old
    | _ => exact before delivery member
  have grown := effect.grows.1
  cases x with
  | unsent => exact ⟨unsent fits.1, quiet fits.2⟩
  | failed task =>
      obtain ⟨⟨delivery, member, sent⟩, retries⟩ := fits
      rw [Course.Fits, effect.cluster.1]
      exact ⟨⟨delivery, grown member, sent⟩, quiet retries⟩
  | timed task now =>
      obtain ⟨⟨delivery, member, sent⟩, retries⟩ := fits
      exact ⟨⟨delivery, grown member, sent⟩, quiet retries⟩
  | settled => trivial

/-- **A thread's own answer moves its course on.** -/
theorem Course.Fits.after (fits : x.Fits i s) (effect : ServiceEffect webhooks i s op answer t)
    (permitted : x.Permits webhooks role op) : (x.after op answer).Fits i t := by
  cases effect with
  | timed =>
      cases x with
      | failed task => exact ⟨fits.1, fits.2⟩
      | _ => exact fits
  | @looked op answer lookup =>
      cases op <;> first
        | exact lookup.elim
        | (cases x <;> exact fits)
  | @notified task callbackUrl secret payload delivery surroundings isDelivery =>
      obtain ⟨-, rfl⟩ := permitted
      have atLast : ∀ error, delivery.outcome = .error (.webhookDelivery error) →
          Course.Fits i { s with deliveries := delivery :: s.deliveries } (.failed task) := by
        intro message outcome
        refine ⟨⟨delivery, List.mem_cons_self, ?_, ?_, by rw [Delivery.failed, outcome], ?_⟩, fits.2⟩
        · rw [isDelivery]; rfl
        · rw [isDelivery]; rfl
        · rw [isDelivery]; exact Nat.le_refl _
      cases outcome : delivery.outcome with
      | ok _ => trivial
      | error error =>
          cases error with
          | webhookDelivery message => exact atLast message outcome
          | raised error => trivial
  | queued => cases x <;> trivial
  | unqueued exc => cases x <;> trivial

theorem FollowedUp.later {delivery : Delivery} {task : Notification} {time time' : ℕ}
    (followed : FollowedUp webhooks delivery task (some time)) (later : time ≤ time') :
    FollowedUp webhooks delivery task (some time') where
  failed := followed.failed
  isNext := followed.isNext
  limit := followed.limit
  backoff := by
    intro defers
    obtain ⟨moment, isTime, apart⟩ := followed.backoff defers
    obtain rfl := Option.some.inj isTime
    exact ⟨time', rfl, apart.trans later⟩

/-- A task that is ready follows a failed delivery, or is a first attempt. -/
theorem Queue.of_ready (queue : Queue webhooks s) {task : Notification} (ready : s.Ready task) :
    1 ≤ task.attempt ∧ (task.attempt ≠ 1 → ∃ earlier ∈ s.deliveries,
      FollowedUp webhooks earlier task (some s.cluster.store.clock)) := by
  rcases ready with ⟨isFirst, -⟩ | ⟨retry, member, rfl, due⟩
  · exact ⟨isFirst.ge, fun other => absurd isFirst other⟩
  · obtain ⟨delivery, isDelivery, -, followed⟩ := queue.retried retry member
    have number := congrArg Notification.attempt followed.isNext
    refine ⟨by rw [number]; exact Nat.le_add_left _ _, fun _ => ⟨delivery, isDelivery, ?_⟩⟩
    refine ⟨followed.failed, followed.isNext, followed.limit, fun defers => ?_⟩
    obtain ⟨moment, isTime, apart⟩ := followed.backoff defers
    exact ⟨_, rfl, apart.trans (due moment isTime)⟩

/-- **One operation keeps the queue.** -/
theorem Queue.effect (queue : Queue webhooks s) (fits : x.Fits i s)
    (effect : ServiceEffect webhooks i s op answer t) (permitted : x.Permits webhooks role op)
    (ready : ∀ task, role = .notify task → s.Ready task) : Queue webhooks t := by
  cases effect with
  | timed => exact queue
  | looked answer lookup => exact queue
  | unqueued exc => exact queue
  -- A delivery: its thread has made none before, and what its task follows on is on record.
  | @notified task callbackUrl secret payload delivery surroundings isDelivery =>
      obtain ⟨isRole, rfl⟩ := permitted
      obtain ⟨positive, follows⟩ := queue.of_ready (ready task isRole)
      have thread : delivery.thread = i := by rw [isDelivery]; rfl
      have own : delivery.task = task := by rw [isDelivery]; rfl
      have sentAt : delivery.sentAt = s.cluster.store.clock := by rw [isDelivery]; rfl
      refine ⟨?_, queue.queues, ?_, ?_, ?_⟩
      · refine List.nodup_cons.mpr ⟨fun member => ?_, queue.delivers⟩
        obtain ⟨other, isOther, same⟩ := List.mem_map.mp member
        exact fits.1 other isOther (same.trans thread)
      · refine List.forall_mem_cons.mpr ⟨?_, queue.first⟩
        rw [own]
        exact positive
      · intro retry member
        obtain ⟨earlier, isEarlier, followed⟩ := queue.retried retry member
        exact ⟨earlier, List.mem_cons_of_mem _ isEarlier, followed⟩
      · have kept : ∀ delivery' ∈ s.deliveries, delivery'.task.attempt ≠ 1 →
            ∃ earlier ∈ delivery :: s.deliveries,
              FollowedUp webhooks earlier delivery'.task (some delivery'.sentAt) := by
          intro delivery' member later
          obtain ⟨earlier, isEarlier, followed⟩ := queue.preceded delivery' member later
          exact ⟨earlier, List.mem_cons_of_mem _ isEarlier, followed⟩
        refine List.forall_mem_cons.mpr ⟨fun later => ?_, kept⟩
        rw [own] at later
        obtain ⟨earlier, isEarlier, followed⟩ := follows later
        rw [own, sentAt]
        exact ⟨earlier, List.mem_cons_of_mem _ isEarlier, followed⟩
  -- A retry: the thread that queues it has just failed with the attempt before, and queues one.
  | @queued next runAfter =>
      obtain ⟨task, rfl, below, waits⟩ := permitted
      have made : (∃ delivery ∈ s.deliveries, delivery.thread = i ∧
          FollowedUp webhooks delivery ⟨task.callback, task.attempt + 1⟩ runAfter) ∧
            ∀ retry ∈ s.retries, retry.thread ≠ i := by
        rcases waits with ⟨immediate, rfl, rfl⟩ | ⟨now, rfl, rfl⟩
        · obtain ⟨⟨delivery, member, thread, rfl, failed, -⟩, quiet⟩ := fits
          refine ⟨⟨delivery, member, thread, failed, rfl, below, fun defers => ?_⟩, quiet⟩
          rw [immediate] at defers
          cases defers
        · obtain ⟨⟨delivery, member, thread, rfl, failed, sent⟩, quiet⟩ := fits
          refine ⟨⟨delivery, member, thread, failed, rfl, below, fun _ => ⟨_, rfl, ?_⟩⟩, quiet⟩
          exact Nat.add_le_add_right sent _
      refine ⟨queue.delivers, ?_, queue.first, ?_, queue.preceded⟩
      · refine List.nodup_cons.mpr ⟨fun member => ?_, queue.queues⟩
        obtain ⟨other, isOther, same⟩ := List.mem_map.mp member
        exact made.2 other isOther same
      · exact List.forall_mem_cons.mpr ⟨made.1, queue.retried⟩

end Steps

/-! ## The runs -/

/-- What the pipeline has put on its queue stays there, and its clock moves forward. -/
theorem next_queue {settings : Settings} {acceptsUrl : String → Bool} {c c' : Cluster}
    {choice : Choice} (moved : (system settings acceptsUrl).next c choice = some c') :
    c.store.clock ≤ c'.store.clock ∧ c.store.webhookTasks <:+ c'.store.webhookTasks := by
  cases choice with
  | spawn role =>
      obtain ⟨body, -, rfl⟩ := Machine.next_spawn_eq moved
      rw [Config.place_store]
      exact ⟨Nat.le_refl _, List.suffix_refl _⟩
  | step i world =>
      obtain ⟨thread, answer, t, -, executed, rfl⟩ := step_eq moved
      rw [stepped_store]
      obtain ⟨role, op, next⟩ := thread
      have effect := execute_effect executed
      refine ⟨effect.clock.ge, ?_⟩
      cases effect with
      | notified => exact List.suffix_cons _ _
      | _ => exact List.suffix_refl _
  | kill i =>
      obtain ⟨victim, -, rfl⟩ := Machine.next_kill_eq moved
      exact ⟨Nat.le_refl _, List.suffix_refl _⟩
  | env elapsed =>
      obtain rfl := Machine.next_env_eq moved
      exact ⟨Nat.le_add_right _ _, List.suffix_refl _⟩

section Runs

variable {settings : Settings} {acceptsUrl : String → Bool} {webhooks : WebhookSettings}
variable {ok : ServiceCluster → ServiceChoice → Prop} {retryFloor : Option String}
variable {secret : ℕ → String} {c : ServiceCluster}

/-- What a move of the environment leaves of the queue. -/
theorem ServiceStore.move_queue (settings : Settings) (acceptsUrl : String → Bool)
    (move : ServiceMove) (s : ServiceStore) :
    (s.move settings acceptsUrl move).deliveries = s.deliveries ∧
      (s.move settings acceptsUrl move).retries = s.retries ∧
      s.cluster.store.clock ≤ (s.move settings acceptsUrl move).cluster.store.clock ∧
      s.cluster.store.webhookTasks <:+ (s.move settings acceptsUrl move).cluster.store.webhookTasks := by
  rcases ServiceStore.move_cases settings acceptsUrl move s with
    ⟨choice, after, moved, same⟩ | ⟨account, secret, same⟩ | same
  · rw [same]
    exact ⟨rfl, rfl, next_queue moved⟩
  · rw [same]
    exact ⟨rfl, rfl, Nat.le_refl _, List.suffix_refl _⟩
  · rw [same]
    exact ⟨rfl, rfl, Nat.le_refl _, List.suffix_refl _⟩

/-- **One choice takes nothing from the queue.** -/
theorem service_next_queue {c' : ServiceCluster} {choice : ServiceChoice}
    (moved : (service settings acceptsUrl webhooks).next c choice = some c') :
    c.store.retries <:+ c'.store.retries ∧ c.store.cluster.store.clock ≤ c'.store.cluster.store.clock ∧
      c.store.cluster.store.webhookTasks <:+ c'.store.cluster.store.webhookTasks := by
  cases choice with
  | spawn role =>
      obtain ⟨body, -, rfl⟩ := Machine.next_spawn_eq moved
      rw [Config.place_store]
      exact ⟨List.suffix_refl _, Nat.le_refl _, List.suffix_refl _⟩
  | step i world =>
      obtain ⟨thread, answer, t, -, executed, rfl⟩ := Machine.next_step_eq moved
      rw [Config.place_store]
      obtain ⟨role, op, next⟩ := thread
      have effect := ServiceStore.execute_effect executed
      rw [effect.cluster.1]
      refine ⟨?_, Nat.le_refl _, List.suffix_refl _⟩
      cases effect with
      | queued => exact List.suffix_cons _ _
      | _ => exact List.suffix_refl _
  | kill i =>
      obtain ⟨victim, -, rfl⟩ := Machine.next_kill_eq moved
      exact ⟨List.suffix_refl _, Nat.le_refl _, List.suffix_refl _⟩
  | env move =>
      obtain rfl := Machine.next_env_eq moved
      obtain ⟨-, retries, clock, tasks⟩ :=
        ServiceStore.move_queue settings acceptsUrl move c.store
      exact ⟨(congrArg (c.store.retries <:+ ·) retries).mpr (List.suffix_refl _), clock, tasks⟩

/-- A task of a live thread is still in the queue. -/
theorem ready_reached
    (reached : (service settings acceptsUrl webhooks).Reach ok (launched retryFloor secret) c) :
    ∀ i thread, c.threads i = some thread → ∀ task, thread.role = .notify task →
      c.store.Ready task := by
  refine reached.standing (fun role s => ∀ task, role = .notify task → s.Ready task)
    (fun role s body started => (service_start_eq started).2) ?_
  intro c choice c' role _ moved ready task isTask
  obtain ⟨retries, clock, tasks⟩ := service_next_queue moved
  rcases ready task isTask with ⟨isFirst, member⟩ | ⟨retry, member, isRetry, due⟩
  · exact .inl ⟨isFirst, tasks.subset member⟩
  · exact .inr ⟨retry, retries.subset member, isRetry, fun moment isTime =>
      (due moment isTime).trans clock⟩

/-- The course of a thread. -/
def course (c : ServiceCluster) (i : ℕ) : Course :=
  Machine.observed (S := ServiceQuery) Course.after .unsent i c.history

private theorem course_permitted
    (reached : (service settings acceptsUrl webhooks).Reach ok (launched retryFloor secret) c)
    {i : ℕ} {thread : Thread ServiceQuery ServiceExn Reply ServiceRole}
    (live : c.threads i = some thread) :
    (course c i).Permits webhooks thread.role thread.op := by
  have followed := reached.tracked (S := ServiceQuery) Course.after .unsent ServiceOp.answered
    (fun role x op => Course.Permits webhooks role x op) (fun _ _ _ => True) ?_ ?_
  · exact (followed.live i thread live).1
  · intro role s body started
    rw [(service_start_eq started).1]
    exact role_courses webhooks role
  · exact fun _ _ _ _ _ _ executed => ServiceStore.execute_answered executed

/-- **A thread's course and the deliveries agree.** -/
private theorem course_fits
    (reached : (service settings acceptsUrl webhooks).Reach ok (launched retryFloor secret) c)
    (i : ℕ) : (course c i).Fits i c.store := by
  refine reached.witnessed (S := ServiceQuery) Course.after .unsent (fun i s x => Course.Fits i s x)
    ?_ ?_ ?_ ?_ ?_ i
  · exact fun i => ⟨fun delivery impossible => (by cases impossible),
      fun retry impossible => (by cases impossible)⟩
  · intro c i world thread answer t before live _ executed fits
    exact fits.after (ServiceStore.execute_effect executed) (course_permitted before live)
  · intro c i j world thread answer t x _ _ _ executed different fits
    exact fits.others (ServiceStore.execute_effect executed) different
  · exact fun _ _ _ _ fits => fits
  · intro move j s x fits
    obtain ⟨deliveries, retries, clock, -⟩ :=
      ServiceStore.move_queue settings acceptsUrl move s
    change Course.Fits j (s.move settings acceptsUrl move) x
    cases x with
    | unsent =>
        rw [Course.Fits, deliveries, retries]
        exact fits
    | failed task =>
        rw [Course.Fits, deliveries, retries]
        obtain ⟨⟨delivery, member, thread, own, failed, sent⟩, quiet⟩ := fits
        exact ⟨⟨delivery, member, thread, own, failed, sent.trans clock⟩, quiet⟩
    | timed task now =>
        rw [Course.Fits, deliveries, retries]
        exact fits
    | settled => trivial

/-- **The queue of every reachable service.** -/
theorem queue_reached
    (reached : (service settings acceptsUrl webhooks).Reach ok (launched retryFloor secret) c) :
    Queue webhooks c.store := by
  refine reached.invariant (fun c => Queue webhooks c.store) ?_ ?_
  · exact ⟨List.nodup_nil, List.nodup_nil, fun _ impossible => (by cases impossible),
      fun _ impossible => (by cases impossible), fun _ impossible => (by cases impossible)⟩
  · intro c choice c' before queue _ moved
    cases choice with
    | spawn role =>
        obtain ⟨body, -, rfl⟩ := Machine.next_spawn_eq moved
        rw [Config.place_store]
        exact queue
    | step i world =>
        obtain ⟨thread, answer, t, live, executed, rfl⟩ := Machine.next_step_eq moved
        rw [Config.place_store]
        exact queue.effect (course_fits before i) (ServiceStore.execute_effect executed)
          (course_permitted before live) (ready_reached before i thread live)
    | kill i =>
        obtain ⟨victim, -, rfl⟩ := Machine.next_kill_eq moved
        exact queue
    | env move =>
        obtain rfl := Machine.next_env_eq moved
        obtain ⟨deliveries, retries, -, -⟩ :=
          ServiceStore.move_queue settings acceptsUrl move c.store
        change Queue webhooks (c.store.move settings acceptsUrl move)
        refine ⟨?_, ?_, ?_, ?_, ?_⟩
        · rw [deliveries]; exact queue.delivers
        · rw [retries]; exact queue.queues
        · rw [deliveries]; exact queue.first
        · rw [deliveries, retries]; exact queue.retried
        · rw [deliveries]; exact queue.preceded

/-- **The condition.**  The queue hands out a task as often as it has been put there, and not
again.

Workers that are killed do not matter: a task that was handed out and not finished is lost under
the condition, and lost is no duplicate. -/
def handsOutOnce (c : ServiceCluster) : ServiceChoice → Bool
  | .spawn (.notify task) =>
      (Machine.startedIn (ServiceRole.notify task) c.history).length < c.store.queued task
  | _ => true

/-- An attempt with a callback is run to its end, its notification times out, and is
tried again half a minute later. -/
def secondTry : List ServiceChoice :=
  meanwhile ([.spawn (.request .noLimits .notifying)] ++ steps 0 10 ++ [.spawn (.run 0)] ++ steps 1 15) ++
  [.spawn (.notify ⟨1, 1⟩)] ++
  List.replicate 5 (.step 0 (.answering (some "The read operation timed out".toList))) ++
  meanwhile [.env 30000000] ++ [.spawn (.notify ⟨1, 2⟩)] ++ List.replicate 3 (.step 1 (.answering none))

/-- The first delivery has failed, and the second one has gone through. -/
def deliveredSecond (c : ServiceCluster) : Bool :=
  c.store.deliveries.map (fun delivery => (delivery.task.attempt, delivery.succeeded)) =
    [(2, true), (1, false)]

private theorem secondTry_replay :
    ((service .stepsOff (fun _ => true) .default).replay handsOutOnce (launched none fun _ => "s")
      secondTry).any deliveredSecond = true := by
  decide +kernel

/-- Attempts are numbered from one to the limit, and behind each of them there is a failed
delivery of every attempt before it, at least as long ago as the backoffs in between. -/
structure BacksOff (webhooks : WebhookSettings) (s : ServiceStore) : Prop where
  numbered : ∀ delivery ∈ s.deliveries,
    1 ≤ delivery.task.attempt ∧ delivery.task.attempt ≤ max 1 webhooks.maxAttempts
  spaced : ∀ delivery ∈ s.deliveries, ∀ k, 1 ≤ k → k < delivery.task.attempt →
    ∃ earlier ∈ s.deliveries, earlier.task = ⟨delivery.task.callback, k⟩ ∧ earlier.failed = true ∧
      (webhooks.supportsDefer = true → earlier.sentAt + seconds (webhooks.backoffBaseSeconds *
        (2 ^ (delivery.task.attempt - 1) - 2 ^ (k - 1))) ≤ delivery.sentAt)

/-- The backoffs from attempt `k` to attempt `n + 1` add up. -/
private theorem backoffs_add (base : ℕ) {k n : ℕ} (before : k ≤ n) (positive : 1 ≤ n) :
    seconds (base * (2 ^ (n - 1) - 2 ^ (k - 1))) + seconds (base * 2 ^ (n - 1)) =
      seconds (base * (2 ^ n - 2 ^ (k - 1))) := by
  have smaller : 2 ^ (k - 1) ≤ 2 ^ (n - 1) := Nat.pow_le_pow_right (by omega) (by omega)
  have double : 2 ^ n = 2 ^ (n - 1) + 2 ^ (n - 1) := by
    rw [← Nat.two_mul, ← Nat.pow_succ', Nat.succ_eq_add_one, Nat.sub_add_cancel positive]
  rw [double, Nat.sub_add_comm smaller, Nat.mul_add]
  exact (Nat.add_mul _ _ _).symm

theorem Queue.backsOff {s : ServiceStore} (queue : Queue webhooks s) : BacksOff webhooks s where
  numbered := by
    intro delivery member
    refine ⟨queue.first delivery member, ?_⟩
    by_cases isFirst : delivery.task.attempt = 1
    · rw [isFirst]
      exact le_max_left _ _
    · obtain ⟨earlier, -, followed⟩ := queue.preceded delivery member isFirst
      exact followed.limit.trans (le_max_right _ _)
  spaced := by
    -- Induction on the number: the attempt before is on record, and those before that are spaced by
    -- what the doubling waits add up to.
    have byNumber : ∀ n, ∀ delivery ∈ s.deliveries, delivery.task.attempt = n + 1 →
        ∀ k, 1 ≤ k → k < n + 1 → ∃ earlier ∈ s.deliveries,
          earlier.task = ⟨delivery.task.callback, k⟩ ∧ earlier.failed = true ∧
            (webhooks.supportsDefer = true → earlier.sentAt +
              seconds (webhooks.backoffBaseSeconds * (2 ^ n - 2 ^ (k - 1))) ≤ delivery.sentAt) := by
      intro n
      induction n with
      | zero => exact fun delivery _ _ k positive below => absurd positive (by omega)
      | succ n ih =>
          intro delivery member number k positive below
          obtain ⟨last, isLast, followed⟩ := queue.preceded delivery member (by omega)
          have sameCallback := congrArg Notification.callback followed.isNext
          have nextNumber := congrArg Notification.attempt followed.isNext
          simp only at sameCallback nextNumber
          have lastNumber : last.task.attempt = n + 1 := by omega
          have apart : webhooks.supportsDefer = true →
              last.sentAt + seconds (webhooks.backoffBaseSeconds * 2 ^ n) ≤ delivery.sentAt := by
            intro defers
            obtain ⟨moment, isTime, apart⟩ := followed.backoff defers
            obtain rfl := Option.some.inj isTime
            simpa [backoffSeconds, lastNumber] using apart
          -- An attempt further back, or the one right before.
          rcases Nat.lt_or_ge k (n + 1) with further | here
          · obtain ⟨earlier, isEarlier, task, failed, spaced⟩ :=
              ih last isLast lastNumber k positive further
            refine ⟨earlier, isEarlier, by rw [task, sameCallback], failed, fun defers => ?_⟩
            rw [← backoffs_add _ (by omega) (by omega), Nat.add_sub_cancel]
            have first := spaced defers
            have second := apart defers
            omega
          · obtain rfl : k = n + 1 := by omega
            refine ⟨last, isLast, ?_, followed.failed, fun defers => ?_⟩
            · rw [sameCallback, ← lastNumber]
            · have double : 2 ^ (n + 1) - 2 ^ n = 2 ^ n := by rw [Nat.pow_succ]; omega
              rw [Nat.add_sub_cancel, double]
              exact apart defers
    intro delivery member k positive below
    obtain ⟨n, number⟩ := Nat.exists_eq_add_of_le' (queue.first delivery member)
    rw [number, Nat.add_sub_cancel]
    exact byNumber n delivery member number k positive (by omega)

/-- **Retries back off.**  However deliveries fail, tasks are redelivered and runs
overlap, the attempts at a callback are numbered up to the limit, and attempt `n` is made
only after every attempt before it has failed, the times between them doubling. -/
theorem deliveries_back_off (settings : Settings) (acceptsUrl : String → Bool)
    (webhooks : WebhookSettings) (retryFloor : Option String) (secret : ℕ → String)
    (c : ServiceCluster)
    (reached : (service settings acceptsUrl webhooks).Reach (fun _ _ => True)
      (launched retryFloor secret) c) : BacksOff webhooks c.store :=
  (queue_reached reached).backsOff

/-- An instance: the delivery that failed, and the one that was made half a minute later. -/
theorem deliveries_back_off_second_try :
    ∃ c : ServiceCluster, deliveredSecond c = true ∧ BacksOff .default c.store := by
  obtain ⟨c, reached, checked⟩ := Machine.exists_reach_of_replay _ _ _ _ _ secondTry_replay
  exact ⟨c, checked, deliveries_back_off .stepsOff _ .default none _ c
    (reached.mono fun _ _ _ => trivial)⟩

end Runs

/-! ## Each task once -/

/-- The deliveries of a task. -/
def ServiceStore.deliveriesOf (s : ServiceStore) (task : Notification) : List Delivery :=
  s.deliveries.filter fun delivery => delivery.task = task

section Once

variable {settings : Settings} {acceptsUrl : String → Bool} {webhooks : WebhookSettings}
variable {retryFloor : Option String} {secret : ℕ → String} {c c' : ServiceCluster}

/-- The queue keeps what it holds. -/
theorem queued_le {choice : ServiceChoice}
    (moved : (service settings acceptsUrl webhooks).next c choice = some c') (task : Notification) :
    c.store.queued task ≤ c'.store.queued task := by
  obtain ⟨retries, -, tasks⟩ := service_next_queue moved
  have first := tasks.sublist.count_le task.callback
  have later := retries.sublist.countP_le (p := fun retry => decide (retry.task = task))
  unfold ServiceStore.queued
  split <;> omega

/-- A delivery is a thread's that has been started for it. -/
private theorem delivery_started {ok : ServiceCluster → ServiceChoice → Prop}
    (reached : (service settings acceptsUrl webhooks).Reach ok (launched retryFloor secret) c) :
    ∀ delivery ∈ c.store.deliveries,
      .started delivery.thread (.notify delivery.task) ∈ c.history := by
  refine reached.invariant (fun c => ∀ delivery ∈ c.store.deliveries,
    .started delivery.thread (.notify delivery.task) ∈ c.history)
    (fun delivery impossible => by cases impossible) ?_
  intro c choice c' before known _ moved
  cases choice with
  | spawn role =>
      obtain ⟨body, -, rfl⟩ := Machine.next_spawn_eq moved
      rw [Config.place_store]
      exact fun delivery member => Config.mem_place_history _ _ _ _
        (List.mem_cons_of_mem _ (known delivery member))
  | step i world =>
      obtain ⟨thread, answer, t, live, executed, rfl⟩ := Machine.next_step_eq moved
      rw [Config.place_store]
      obtain ⟨role, op, next⟩ := thread
      have kept : ∀ delivery ∈ c.store.deliveries, .started delivery.thread (.notify delivery.task) ∈
          ({ c with store := t, history := .answered i op answer :: c.history }.place i role
            (next answer)).history :=
        fun delivery member => Config.mem_place_history _ _ _ _
          (List.mem_cons_of_mem _ (known delivery member))
      have permitted := course_permitted before live
      have effect := ServiceStore.execute_effect executed
      cases effect with
      | notified surroundings isDelivery =>
          refine List.forall_mem_cons.mpr ⟨?_, kept⟩
          obtain ⟨rfl, -⟩ := permitted
          rw [isDelivery]
          exact Config.mem_place_history _ _ _ _ (List.mem_cons_of_mem _ (before.started i _ live))
      | _ => exact kept
  | kill i =>
      obtain ⟨victim, -, rfl⟩ := Machine.next_kill_eq moved
      exact fun delivery member => List.mem_cons_of_mem _ (known delivery member)
  | env move =>
      obtain rfl := Machine.next_env_eq moved
      intro delivery member
      change delivery ∈ (c.store.move settings acceptsUrl move).deliveries at member
      rw [(ServiceStore.move_queue settings acceptsUrl move c.store).1] at member
      exact known delivery member

/-- A task is not started more often than the queue holds it. -/
private theorem started_le
    (reached : (service settings acceptsUrl webhooks).Reach (handsOutOnce · ·)
      (launched retryFloor secret) c) (task : Notification) :
    (Machine.startedIn (ServiceRole.notify task) c.history).length ≤ c.store.queued task := by
  refine reached.invariant (fun c => (Machine.startedIn (ServiceRole.notify task) c.history).length ≤
    c.store.queued task) (Nat.zero_le _) ?_
  intro c choice c' _ fewer admitted moved
  have kept := queued_le moved task
  cases choice with
  | spawn role =>
      obtain ⟨body, -, rfl⟩ := Machine.next_spawn_eq moved
      rw [Machine.startedIn_place]
      by_cases same : role = .notify task
      · subst same
        have once : (Machine.startedIn (ServiceRole.notify task) c.history).length <
            c.store.queued task := of_decide_eq_true admitted
        simp only [Machine.startedIn, if_pos, List.length_cons]
        omega
      · simp only [Machine.startedIn, if_neg same]
        omega
  | step i world =>
      obtain ⟨thread, answer, t, -, -, rfl⟩ := Machine.next_step_eq moved
      rw [Machine.startedIn_place]
      exact fewer.trans kept
  | kill i =>
      obtain ⟨victim, -, rfl⟩ := Machine.next_kill_eq moved
      exact fewer.trans kept
  | env move =>
      obtain rfl := Machine.next_env_eq moved
      exact fewer.trans kept

/-- A task is not delivered more often than the queue holds it. -/
private theorem deliveriesOf_le
    (reached : (service settings acceptsUrl webhooks).Reach (handsOutOnce · ·)
      (launched retryFloor secret) c) (task : Notification) :
    (c.store.deliveriesOf task).length ≤ c.store.queued task := by
  unfold ServiceStore.deliveriesOf
  have apart : ((c.store.deliveries.filter fun delivery => delivery.task = task).map
      (·.thread)).Nodup :=
    ((queue_reached reached).delivers).sublist (List.filter_sublist.map _)
  have among : (c.store.deliveries.filter fun delivery => delivery.task = task).map (·.thread) ⊆
      Machine.startedIn (ServiceRole.notify task) c.history := by
    intro i member
    obtain ⟨delivery, isDelivery, rfl⟩ := List.mem_map.mp member
    obtain ⟨known, own⟩ := List.mem_filter.mp isDelivery
    rw [← of_decide_eq_true own]
    exact Machine.mem_startedIn.mpr (delivery_started reached delivery known)
  have fewer := (List.Nodup.subperm apart among).length_le
  rw [List.length_map] at fewer
  exact fewer.trans (started_le reached task)

/-- A retry is queued for a failed delivery of the attempt before it. -/
private theorem retries_le {s : ServiceStore} (queue : Queue webhooks s) (callback attempt : ℕ) :
    s.retries.countP (fun retry => retry.task = ⟨callback, attempt + 1⟩) ≤
      (s.deliveriesOf ⟨callback, attempt⟩).countP (·.failed) := by
  rw [List.countP_eq_length_filter, List.countP_eq_length_filter,
    ← List.length_map (·.thread), ← List.length_map (f := Delivery.thread)]
  refine List.Subperm.length_le (List.Nodup.subperm ?_ ?_)
  · exact queue.queues.sublist (List.filter_sublist.map _)
  · intro i member
    obtain ⟨retry, isRetry, rfl⟩ := List.mem_map.mp member
    obtain ⟨isRetry, own⟩ := List.mem_filter.mp isRetry
    obtain ⟨delivery, isDelivery, sameThread, followed⟩ := queue.retried retry isRetry
    have same := followed.isNext.symm.trans (of_decide_eq_true own)
    obtain ⟨sameCallback, sameAttempt⟩ := Notification.mk.inj same
    refine List.mem_map.mpr ⟨delivery, List.mem_filter.mpr ⟨List.mem_filter.mpr
      ⟨isDelivery, decide_eq_true ?_⟩, followed.failed⟩, sameThread⟩
    rw [← sameCallback, ← Nat.succ.inj sameAttempt]

/-- A delivery that has succeeded has not failed. -/
private theorem succeeded_add_failed (deliveries : List Delivery) :
    deliveries.countP (·.succeeded) + deliveries.countP (·.failed) ≤ deliveries.length := by
  induction deliveries with
  | nil => simp
  | cons delivery rest ih =>
      have one : ¬(delivery.succeeded = true ∧ delivery.failed = true) := by
        rintro ⟨succeeded, failed⟩
        unfold Delivery.succeeded at succeeded
        unfold Delivery.failed at failed
        cases outcome : delivery.outcome with
        | ok _ => simp [outcome] at failed
        | error error => simp [outcome, Except.isOk, Except.toBool] at succeeded
      simp only [List.countP_cons, List.length_cons]
      cases succeeded : delivery.succeeded <;> cases failed : delivery.failed <;>
        simp_all <;> omega

/-- What flows from one attempt to the next adds up to no more than came in. -/
private theorem sum_le_of_flow {D S : ℕ → ℕ} (flow : ∀ n, D (n + 1) + S n ≤ D n) (m : ℕ) :
    ∑ n ∈ Finset.range m, S n + D m ≤ D 0 := by
  induction m with
  | zero => simp
  | succ m ih =>
      rw [Finset.sum_range_succ]
      have step := flow m
      omega

private theorem sum_le_mul {D : ℕ → ℕ} {a : ℕ} (each : ∀ n, D n ≤ a) (m : ℕ) :
    ∑ n ∈ Finset.range m, D n ≤ m * a := by
  induction m with
  | zero => simp
  | succ m ih =>
      rw [Finset.sum_range_succ, Nat.succ_mul]
      exact Nat.add_le_add ih (each m)

/-- Deliveries are counted attempt by attempt. -/
private theorem countP_eq_sum (p : Delivery → Bool) (m : ℕ) (deliveries : List Delivery)
    (numbered : ∀ delivery ∈ deliveries, 1 ≤ delivery.task.attempt ∧ delivery.task.attempt ≤ m) :
    deliveries.countP p = ∑ n ∈ Finset.range m,
      deliveries.countP fun delivery => p delivery && decide (delivery.task.attempt = n + 1) := by
  induction deliveries with
  | nil => simp
  | cons delivery rest ih =>
      obtain ⟨⟨positive, limit⟩, later⟩ := List.forall_mem_cons.mp numbered
      simp only [List.countP_cons, Finset.sum_add_distrib, ← ih later]
      congr 1
      cases counted : p delivery with
      | false => simp
      | true =>
          have here : delivery.task.attempt - 1 ∈ Finset.range m := Finset.mem_range.mpr (by omega)
          rw [Finset.sum_eq_single_of_mem _ here]
          · simp [Nat.sub_add_cancel positive]
          · intro n _ other
            have differs : delivery.task.attempt ≠ n + 1 := by omega
            simp [differs]

/-- The deliveries and the successes of one callback, by attempt. -/
private theorem flow_reached
    (reached : (service settings acceptsUrl webhooks).Reach (handsOutOnce · ·)
      (launched retryFloor secret) c) (callback : ℕ) :
    (c.store.deliveriesOf ⟨callback, 1⟩).length ≤
        c.store.cluster.store.webhookTasks.count callback ∧
      ∀ n, (c.store.deliveriesOf ⟨callback, n + 1 + 1⟩).length +
        (c.store.deliveriesOf ⟨callback, n + 1⟩).countP (·.succeeded) ≤
          (c.store.deliveriesOf ⟨callback, n + 1⟩).length := by
  have queue := queue_reached reached
  constructor
  · have fewer := deliveriesOf_le reached ⟨callback, 1⟩
    have none : c.store.retries.countP (fun retry => retry.task = ⟨callback, 1⟩) = 0 := by
      refine List.countP_eq_zero.mpr fun retry member isFirst => ?_
      obtain ⟨delivery, isDelivery, -, followed⟩ := queue.retried retry member
      have positive := queue.first delivery isDelivery
      have number := congrArg Notification.attempt (followed.isNext.symm.trans (of_decide_eq_true isFirst))
      simp only at number
      omega
    simpa [ServiceStore.queued, none] using fewer
  · intro n
    have fewer := deliveriesOf_le reached ⟨callback, n + 1 + 1⟩
    have retried := retries_le queue callback (n + 1)
    have disjoint := succeeded_add_failed (c.store.deliveriesOf ⟨callback, n + 1⟩)
    simp only [ServiceStore.queued] at fewer
    rw [if_neg (by omega), Nat.zero_add] at fewer
    omega

/-- No subscriber is told more often than its notification was queued, and none is called
more often than the limit allows. -/
structure NotifiedOnce (webhooks : WebhookSettings) (s : ServiceStore) : Prop where
  told : ∀ callback, s.deliveries.countP (fun delivery =>
    decide (delivery.task.callback = callback) && delivery.succeeded) ≤
      s.cluster.store.webhookTasks.count callback
  called : ∀ callback, s.deliveries.countP (fun delivery => delivery.task.callback = callback) ≤
    max 1 webhooks.maxAttempts * s.cluster.store.webhookTasks.count callback

/-- **Every queued notification gets through at most once.**  As long as the queue hands out
no task more often than it has been put there, the deliveries of a callback that
succeed, and the chains of attempts at it, are no more than the notifications that were
queued for it; after a success, a chain ends. -/
theorem notified_once (settings : Settings) (acceptsUrl : String → Bool)
    (webhooks : WebhookSettings) (retryFloor : Option String) (secret : ℕ → String)
    (c : ServiceCluster)
    (reached : (service settings acceptsUrl webhooks).Reach (handsOutOnce · ·)
      (launched retryFloor secret) c) : NotifiedOnce webhooks c.store := by
  have numbered := (queue_reached reached).backsOff.numbered
  -- The deliveries of a callback, sorted by the number of the attempt.
  have byAttempt : ∀ (p : Delivery → Bool) callback n,
      c.store.deliveries.countP (fun delivery =>
        (decide (delivery.task.callback = callback) && p delivery) &&
          decide (delivery.task.attempt = n + 1)) =
        (c.store.deliveriesOf ⟨callback, n + 1⟩).countP p := by
    intro p callback n
    rw [ServiceStore.deliveriesOf, List.countP_filter]
    refine List.countP_congr fun delivery _ => ?_
    obtain ⟨thread, ⟨callback', attempt⟩, -⟩ := delivery
    simp only [Bool.and_eq_true, decide_eq_true_eq, Notification.mk.injEq]
    tauto
  constructor
  · intro callback
    obtain ⟨first, flow⟩ := flow_reached reached callback
    rw [countP_eq_sum _ _ _ numbered]
    simp only [byAttempt]
    -- Of each number no more are made than have failed with the one before, and first attempts are
    -- no more than notifications.
    have all := sum_le_of_flow (D := fun n => (c.store.deliveriesOf ⟨callback, n + 1⟩).length) flow
      (max 1 webhooks.maxAttempts)
    exact (Nat.le_add_right _ _).trans (all.trans first)
  · intro callback
    obtain ⟨first, flow⟩ := flow_reached reached callback
    have each : ∀ n, (c.store.deliveriesOf ⟨callback, n + 1⟩).length ≤
        c.store.cluster.store.webhookTasks.count callback := by
      intro n
      have all := sum_le_of_flow (D := fun n => (c.store.deliveriesOf ⟨callback, n + 1⟩).length)
        flow n
      exact (Nat.le_add_left _ _).trans (all.trans first)
    have counted : ∀ n, c.store.deliveries.countP (fun delivery =>
        decide (delivery.task.callback = callback) && decide (delivery.task.attempt = n + 1)) =
          (c.store.deliveriesOf ⟨callback, n + 1⟩).length := by
      intro n
      simpa using byAttempt (fun _ => true) callback n
    rw [countP_eq_sum _ _ _ numbered]
    simp only [counted]
    exact sum_le_mul each _

/-- An instance: the notification was queued once, and told once at the second attempt. -/
theorem notified_once_second_try :
    ∃ c : ServiceCluster, deliveredSecond c = true ∧ NotifiedOnce .default c.store := by
  obtain ⟨c, reached, checked⟩ := Machine.exists_reach_of_replay _ _ _ _ _ secondTry_replay
  exact ⟨c, checked, notified_once .stepsOff _ .default none _ c reached⟩

end Once

end DicePipeline
