import Mathlib.Data.Nat.Notation
import Mathlib.Tactic.SplitIfs
import Mathlib.Tactic.ByContra
import DicePipeline.Interaction.Program

/-!
# Programs that mask a lost connection

Some operations of a program travel over a connection, and the connection may
be lost while the program is busy with something else.  The first operation
that then needs it is refused: it raises and changes nothing.

A program can live with that in two ways.  It takes a fresh connection before
an operation, or it tries a refused operation again on a fresh one.  `Link`
says which operations do which, and `Link.Run` what a run over such a
connection looks like.  Its trace records every answer, and every change others
made in between, so that two runs can be compared event by event.

`Program.Masks` reads off the tree of a program that no loss is seen:
wherever the connection is lost, the next operation over it is one of the two
kinds, and a second try goes on as a first one would have.  `Link.Run.masked`
turns it into the statement about runs: without its refusals, the trace of a
run with a loss is the trace of an undisturbed run with the same result and the
same final state.
-/

namespace DicePipeline.Interaction

variable {S : Signature} {ε α β σ : Type}

/-- How a program uses its connection. -/
structure Link (S : Signature) (ε : Type) where
  /-- The operations that travel over the connection. -/
  carried : S.Op → Bool
  /-- The operations before which the program takes a fresh connection. -/
  fresh : S.Op → Bool
  /-- The operations whose refusal makes the program take a fresh connection. -/
  renews : S.Op → Bool
  /-- The operations during which the connection may be lost. -/
  idle : S.Op → Bool
  /-- What a refused operation raises. -/
  refusal : ε

/-- The state of a connection that is lost at most once. -/
inductive Line where
  /-- Not lost so far. -/
  | sound
  /-- Lost, and not replaced yet. -/
  | lost
  /-- Replaced after its loss. -/
  | renewed
  deriving DecidableEq, Repr

/-- One entry of the trace of a run. -/
inductive Happening (S : Signature) (ε σ : Type) where
  /-- Others changed the state to `t`. -/
  | others (t : σ)
  /-- The operation answered and left `t`. -/
  | answered (op : S.Op) (answer : Except ε (S.Ans op)) (t : σ)
  /-- The same, and the connection was lost meanwhile. -/
  | struck (op : S.Op) (answer : Except ε (S.Ans op)) (t : σ)
  /-- The operation was refused. -/
  | refused (op : S.Op)

/-- The entry of a run in which the connection is not lost. -/
def Happening.undisturbed : Happening S ε σ → Option (Happening S ε σ)
  | .others t => some (.others t)
  | .answered op answer t => some (.answered op answer t)
  | .struck op answer t => some (.answered op answer t)
  | .refused _ => none

/-- The entry records the loss of the connection. -/
def Happening.isStruck : Happening S ε σ → Bool
  | .struck _ _ _ => true
  | _ => false

/-- **The trace without the loss**: no connection is lost and nothing refused. -/
def undisturbed (trace : List (Happening S ε σ)) : List (Happening S ε σ) :=
  trace.filterMap Happening.undisturbed

@[simp] theorem undisturbed_nil : undisturbed ([] : List (Happening S ε σ)) = [] := rfl

@[simp] theorem undisturbed_others (t : σ) (trace : List (Happening S ε σ)) :
    undisturbed (.others t :: trace) = .others t :: undisturbed trace := rfl

@[simp] theorem undisturbed_answered (op : S.Op) (answer : Except ε (S.Ans op)) (t : σ)
    (trace : List (Happening S ε σ)) :
    undisturbed (.answered op answer t :: trace) =
      .answered op answer t :: undisturbed trace := rfl

@[simp] theorem undisturbed_struck (op : S.Op) (answer : Except ε (S.Ans op)) (t : σ)
    (trace : List (Happening S ε σ)) :
    undisturbed (.struck op answer t :: trace) =
      .answered op answer t :: undisturbed trace := rfl

@[simp] theorem undisturbed_refused (op : S.Op) (trace : List (Happening S ε σ)) :
    undisturbed (.refused op :: trace) = undisturbed trace := rfl

namespace Link

variable (link : Link S ε)

/-- Whether the operation gets through. -/
def Carries (line : Line) (op : S.Op) : Prop :=
  line = .lost → link.carried op = true → link.fresh op = true

/-- The connection after an operation that got through. -/
def after (line : Line) (op : S.Op) : Line :=
  if line = .lost ∧ link.carried op ∧ link.fresh op then .renewed else line

/-- The connection after a refusal. -/
def afterRefusal (op : S.Op) : Line := if link.renews op then .renewed else .lost

/-- **Runs over a connection that is lost at most once.** -/
inductive Run (step : (op : S.Op) → σ → Except ε (S.Ans op) → σ → Prop) :
    Program S ε α → Line → σ → List (Happening S ε σ) → Except ε α → σ → Prop
  | done (result : Except ε α) (line : Line) (s : σ) : Run step (.done result) line s [] result s
  | others {p : Program S ε α} {line : Line} {s : σ} (t : σ) {trace result u} :
      Run step p line t trace result u → Run step p line s (.others t :: trace) result u
  | answered {op : S.Op} {next : Except ε (S.Ans op) → Program S ε α} {line : Line} {s t : σ}
      {answer : Except ε (S.Ans op)} {trace result u} :
      link.Carries line op → step op s answer t →
        Run step (next answer) (link.after line op) t trace result u →
        Run step (.call op next) line s (.answered op answer t :: trace) result u
  | struck {op : S.Op} {next : Except ε (S.Ans op) → Program S ε α} {s t : σ}
      {answer : Except ε (S.Ans op)} {trace result u} :
      link.idle op = true → step op s answer t →
        Run step (next answer) .lost t trace result u →
        Run step (.call op next) .sound s (.struck op answer t :: trace) result u
  | refused {op : S.Op} {next : Except ε (S.Ans op) → Program S ε α} {s : σ} {trace result u} :
      link.carried op = true → link.fresh op = false →
        Run step (next (.error link.refusal)) (link.afterRefusal op) s trace result u →
        Run step (.call op next) .lost s (.refused op :: trace) result u

end Link

namespace Program

variable (link : Link S ε) (R : (op : S.Op) → Except ε (S.Ans op) → Prop)
variable (spared : (op : S.Op) → Except ε (S.Ans op) → Prop)

/-- **The program masks a loss.**  Started over `line` it ends with a line and a
result that `K` accepts, if operations answer as `R` promises and the
connection is only lost during operations `spared` allows.  Over a lost line,
what follows a refusal is a second try that goes on like a first one. -/
def Masks (K : Line → Except ε α → Prop) : Line → Program S ε α → Prop
  | line, .done result => K line result
  | .lost, .call op next =>
      if link.carried op = false then ∀ answer, R op answer → Masks K .lost (next answer)
      else if link.fresh op then ∀ answer, R op answer → Masks K .renewed (next answer)
      else link.renews op = true ∧ ∃ again,
        next (.error link.refusal) = .call op again ∧
          ∀ answer, R op answer → again answer = next answer ∧ Masks K .renewed (next answer)
  | .sound, .call op next =>
      ∀ answer, R op answer → Masks K .sound (next answer) ∧
        (link.idle op = true → spared op answer → Masks K .lost (next answer))
  | .renewed, .call op next => ∀ answer, R op answer → Masks K .renewed (next answer)

variable {link R spared} {K K' : Line → Except ε α → Prop} {line : Line}

theorem Masks.mono {p : Program S ε α} (masks : p.Masks link R spared K line)
    (imp : ∀ line result, K line result → K' line result) : p.Masks link R spared K' line := by
  induction p generalizing line with
  | done result =>
      have held : K line result := by cases line <;> exact masks
      have : K' line result := imp line result held
      cases line <;> exact this
  | call op next ih =>
      cases line with
      | sound =>
          intro answer promised
          obtain ⟨calm, struck⟩ := masks answer promised
          exact ⟨ih answer calm, fun idle ok => ih answer (struck idle ok)⟩
      | renewed => exact fun answer promised => ih answer (masks answer promised)
      | lost =>
          unfold Masks at masks ⊢
          split_ifs at masks ⊢ with free fresh
          · exact fun answer promised => ih answer (masks answer promised)
          · exact fun answer promised => ih answer (masks answer promised)
          · obtain ⟨renews, again, retried, same⟩ := masks
            refine ⟨renews, again, retried, fun answer promised => ?_⟩
            exact ⟨(same answer promised).1, ih answer (same answer promised).2⟩

theorem Masks.of_done {result : Except ε α} (held : K line result) :
    (done result : Program S ε α).Masks link R spared K line := by
  cases line <;> exact held

theorem Masks.bind {K : Line → Except ε β → Prop} {p : Program S ε α} {f : α → Program S ε β}
    (first : p.Masks link R spared (fun line result =>
      match result with
      | .ok value => (f value).Masks link R spared K line
      | .error exc => K line (.error exc)) line) : (p.bind f).Masks link R spared K line := by
  induction p generalizing line with
  | done result =>
      cases result with
      | ok value => cases line <;> exact first
      | error exc => cases line <;> exact first
  | call op next ih =>
      cases line with
      | sound =>
          intro answer promised
          obtain ⟨calm, struck⟩ := first answer promised
          exact ⟨ih answer calm, fun idle ok => ih answer (struck idle ok)⟩
      | renewed => exact fun answer promised => ih answer (first answer promised)
      | lost =>
          show Masks link R spared K .lost (.call op fun answer => (next answer).bind f)
          unfold Masks at first ⊢
          split_ifs at first ⊢ with free fresh
          · exact fun answer promised => ih answer (first answer promised)
          · exact fun answer promised => ih answer (first answer promised)
          · obtain ⟨renews, again, retried, same⟩ := first
            refine ⟨renews, fun answer => (again answer).bind f, ?_, fun answer promised => ?_⟩
            · show (next (.error link.refusal)).bind f = _
              rw [retried, call_bind]
            · obtain ⟨equal, rest⟩ := same answer promised
              exact ⟨congrArg (fun q => q.bind f) equal, ih answer rest⟩

theorem Masks.attempt {K : Line → Except ε (Except ε α) → Prop} {p : Program S ε α}
    (masks : p.Masks link R spared (fun line result => K line (.ok result)) line) :
    p.attempt.Masks link R spared K line := by
  induction p generalizing line with
  | done result => cases line <;> exact masks
  | call op next ih =>
      cases line with
      | sound =>
          intro answer promised
          obtain ⟨calm, struck⟩ := masks answer promised
          exact ⟨ih answer calm, fun idle ok => ih answer (struck idle ok)⟩
      | renewed => exact fun answer promised => ih answer (masks answer promised)
      | lost =>
          show Masks link R spared K .lost (.call op fun answer => (next answer).attempt)
          unfold Masks at masks ⊢
          split_ifs at masks ⊢ with free fresh
          · exact fun answer promised => ih answer (masks answer promised)
          · exact fun answer promised => ih answer (masks answer promised)
          · obtain ⟨renews, again, retried, same⟩ := masks
            refine ⟨renews, fun answer => (again answer).attempt, ?_, fun answer promised => ?_⟩
            · show (next (.error link.refusal)).attempt = _
              rw [retried, attempt_call]
            · obtain ⟨equal, rest⟩ := same answer promised
              exact ⟨congrArg attempt equal, ih answer rest⟩

theorem Masks.attempt_bind {K : Line → Except ε β → Prop} {p : Program S ε α}
    {f : Except ε α → Program S ε β}
    (first : p.Masks link R spared (fun line result => (f result).Masks link R spared K line)
      line) : (p.attempt.bind f).Masks link R spared K line :=
  Masks.bind (Masks.attempt first)

/-- A second try that goes on like a first one. -/
theorem Masks.retried {op : S.Op} {next : Except ε (S.Ans op) → Program S ε α}
    (through : link.carried op = true) (renews : link.renews op = true)
    (again : Except ε (S.Ans op) → Program S ε α)
    (isRetried : next (.error link.refusal) = .call op again)
    (same : ∀ answer, R op answer →
      again answer = next answer ∧ (next answer).Masks link R spared K .renewed) :
    (call op next).Masks link R spared K .lost := by
  unfold Masks
  rw [if_neg (by simp [through])]
  split
  · exact fun answer promised => (same answer promised).2
  · exact ⟨renews, again, isRetried, same⟩

/-- A program that is never idle keeps its connection. -/
theorem Only.masks {p : Program S ε α} (busy : p.Only R fun op => link.idle op = false)
    (usable : line ≠ .lost) (held : ∀ result, K line result) :
    p.Masks link R spared K line := by
  induction p with
  | done result => exact .of_done (held result)
  | call op next ih =>
      obtain ⟨never, rest⟩ := busy
      cases line with
      | lost => exact absurd rfl usable
      | renewed => exact fun answer promised => ih answer (rest answer promised)
      | sound =>
          intro answer promised
          refine ⟨ih answer (rest answer promised), fun idle => ?_⟩
          rw [never] at idle
          cases idle

/-- A program that does not use its connection is never refused. -/
theorem Only.masks_of_free {p : Program S ε α}
    (free : p.Only R fun op => link.carried op = false)
    (held : ∀ line result, K line result) : p.Masks link R spared K line := by
  induction p generalizing line with
  | done result => exact .of_done (held line result)
  | call op next ih =>
      obtain ⟨uncarried, rest⟩ := free
      cases line with
      | sound =>
          intro answer promised
          exact ⟨ih answer (rest answer promised), fun _ _ => ih answer (rest answer promised)⟩
      | renewed => exact fun answer promised => ih answer (rest answer promised)
      | lost =>
          unfold Masks
          rw [if_pos uncarried]
          exact fun answer promised => ih answer (rest answer promised)

end Program

/-! ## Runs of such a program -/

namespace Link

variable {link : Link S ε} {step : (op : S.Op) → σ → Except ε (S.Ans op) → σ → Prop}
variable {R spared : (op : S.Op) → Except ε (S.Ans op) → Prop}
variable {K : Line → Except ε α → Prop}

/-- Every loss of the trace is one that `spared` allows. -/
def Spared (spared : (op : S.Op) → Except ε (S.Ans op) → Prop) :
    Happening S ε σ → Prop
  | .struck op answer _ => spared op answer
  | _ => True

/-- The same for a condition that is computed. -/
def spares (spared : (op : S.Op) → Except ε (S.Ans op) → Bool) : Happening S ε σ → Bool
  | .struck op answer _ => spared op answer
  | _ => true

theorem spared_of_spares {spared : (op : S.Op) → Except ε (S.Ans op) → Bool}
    {event : Happening S ε σ} (holds : spares spared event = true) :
    Spared (fun op answer => spared op answer = true) event := by
  cases event <;> first | exact holds | trivial

/-- Nothing is refused over a connection that is not lost. -/
private theorem carries_sound (op : S.Op) : link.Carries .sound op :=
  fun isLost => nomatch isLost

@[simp] private theorem after_sound (op : S.Op) : link.after .sound op = .sound :=
  if_neg fun h => nomatch h.1

@[simp] private theorem after_renewed (op : S.Op) : link.after .renewed op = .renewed :=
  if_neg fun h => nomatch h.1

/-- A second try that goes on like the first has the first one's runs. -/
private theorem Run.of_again {op : S.Op} {next again : Except ε (S.Ans op) → Program S ε α}
    {s u : σ} {trace : List (Happening S ε σ)} {result : Except ε α}
    (promised : ∀ op s answer t, step op s answer t → R op answer)
    (same : ∀ answer, R op answer → again answer = next answer)
    (run : link.Run step (.call op again) .sound s trace result u) :
    link.Run step (.call op next) .sound s trace result u := by
  generalize isAgain : Program.call op again = p at run
  generalize isSound : Line.sound = line at run
  induction run with
  | done result line s => cases isAgain
  | others t _ ih => exact .others t (ih isAgain isSound)
  | answered carries did rest _ =>
      cases isAgain
      refine .answered carries did ?_
      rwa [← same _ (promised _ _ _ _ did)]
  | struck idle did rest _ =>
      cases isAgain
      refine .struck idle did ?_
      rwa [← same _ (promised _ _ _ _ did)]
  | refused _ _ _ _ => cases isSound

/-- **A masked loss leaves nothing behind.**  Without the loss, the same
answers and the same doings of others make a run that is never refused, and it
ends with the same result in the same state. -/
theorem Run.masked {p : Program S ε α} {line : Line} {s u : σ}
    {trace : List (Happening S ε σ)} {result : Except ε α}
    (promised : ∀ op s answer t, step op s answer t → R op answer)
    (run : link.Run step p line s trace result u) (masks : p.Masks link R spared K line)
    (allowed : ∀ event ∈ trace, Spared spared event) :
    link.Run step p .sound s (undisturbed trace) result u := by
  -- Induction on the run.  `Masks` says of the next operation what the line's state allows.
  induction run with
  | done result line s => exact .done result .sound s
  | others t _ ih => exact .others t (ih masks fun event member => allowed event (by simp [member]))
  | @answered op next line s t answer trace result u carries did _ ih =>
      have answered := promised op s answer t did
      have later : ∀ event ∈ trace, Spared spared event := fun event member =>
        allowed event (by simp [member])
      refine .answered (carries_sound op) did ?_
      rw [after_sound]
      refine ih ?_ later
      cases line with
      | sound => rw [after_sound]; exact (masks answer answered).1
      | renewed => rw [after_renewed]; exact masks answer answered
      | lost =>
          unfold Program.Masks at masks
          unfold Link.after
          split_ifs at masks with free fresh
          · rw [if_neg fun h => by simp [free] at h]
            exact masks answer answered
          · have through : link.carried op = true := by simpa using free
            rw [if_pos ⟨rfl, through, fresh⟩]
            exact masks answer answered
          · have through : link.carried op = true := by simpa using free
            exact absurd (carries rfl through) fresh
  -- The loss hits an idle line: the run without it goes on with the same answer.
  | @struck op next s t answer trace result u idle did _ ih =>
      refine .answered (carries_sound op) did ?_
      rw [after_sound]
      have ok : spared op answer := allowed _ List.mem_cons_self
      refine ih ((masks answer (promised op s answer t did)).2 idle ok) fun event member => ?_
      exact allowed event (by simp [member])
  -- A refusal is undone: what is asked again leads to the same result as the operation itself.
  | @refused op next s trace result u through stale _ ih =>
      have later : ∀ event ∈ trace, Spared spared event := fun event member =>
        allowed event (by simp [member])
      unfold Program.Masks at masks
      rw [if_neg (by simp [through]), if_neg (by simp [stale])] at masks
      obtain ⟨renews, again, retried, same⟩ := masks
      rw [undisturbed_refused]
      have second : link.Run step (.call op again) .sound s (undisturbed trace) result u := by
        rw [← retried]
        refine ih ?_ later
        rw [Link.afterRefusal, if_pos renews, retried]
        intro answer ok
        rw [(same answer ok).1]
        exact (same answer ok).2
      exact second.of_again promised fun answer ok => (same answer ok).1

/-! ## Replaying a run -/

/-- Runs `p` alone, as `exec` decides, for at most `n` operations.  The
connection is lost during the first idle operation `strikes` accepts. -/
def runAlone (link : Link S ε) (exec : (op : S.Op) → σ → Option (Except ε (S.Ans op) × σ))
    (strikes : S.Op → Bool) :
    ℕ → Program S ε α → Line → σ → Option (List (Happening S ε σ) × Except ε α × σ)
  | _, .done result, _, s => some ([], result, s)
  | 0, .call _ _, _, _ => none
  | n + 1, .call op next, line, s =>
      if line = .lost ∧ link.carried op ∧ !link.fresh op then do
        let (trace, result, u) ← runAlone link exec strikes n (next (.error link.refusal))
          (link.afterRefusal op) s
        return (.refused op :: trace, result, u)
      else do
        let (answer, t) ← exec op s
        if line = .sound ∧ link.idle op ∧ strikes op then
          let (trace, result, u) ← runAlone link exec strikes n (next answer) .lost t
          return (.struck op answer t :: trace, result, u)
        else
          let (trace, result, u) ← runAlone link exec strikes n (next answer)
            (link.after line op) t
          return (.answered op answer t :: trace, result, u)

/-- **A replay is a run.** -/
theorem run_of_runAlone {exec : (op : S.Op) → σ → Option (Except ε (S.Ans op) × σ)}
    {strikes : S.Op → Bool} (sound : ∀ op s answer t, exec op s = some (answer, t) →
      step op s answer t) {n : ℕ} {p : Program S ε α} {line : Line} {s u : σ}
    {trace : List (Happening S ε σ)} {result : Except ε α}
    (replayed : runAlone link exec strikes n p line s = some (trace, result, u)) :
    link.Run step p line s trace result u := by
  induction n generalizing p line s trace with
  | zero =>
      cases p with
      | done result' =>
          unfold runAlone at replayed
          obtain ⟨rfl, rfl, rfl⟩ := by simpa using replayed
          exact .done _ _ _
      | call op next => exact nomatch replayed
  | succ n ih =>
      cases p with
      | done result' =>
          unfold runAlone at replayed
          obtain ⟨rfl, rfl, rfl⟩ := by simpa using replayed
          exact .done _ _ _
      | call op next =>
          unfold runAlone at replayed
          split_ifs at replayed with refuses strikesNow
          · obtain ⟨isLost, through, stale⟩ := refuses
            obtain ⟨⟨rest, result', u'⟩, ran, ends⟩ := Option.bind_eq_some_iff.mp replayed
            obtain ⟨rfl, rfl, rfl⟩ := by simpa using ends
            subst isLost
            exact .refused through (by simpa using stale) (ih ran)
          · obtain ⟨isSound, idle, -⟩ := strikesNow
            obtain ⟨⟨answer, t⟩, executed, replayed⟩ := Option.bind_eq_some_iff.mp replayed
            obtain ⟨⟨rest, result', u'⟩, ran, ends⟩ := Option.bind_eq_some_iff.mp replayed
            obtain ⟨rfl, rfl, rfl⟩ := by simpa using ends
            subst isSound
            exact .struck idle (sound op s answer t executed) (ih ran)
          · obtain ⟨⟨answer, t⟩, executed, replayed⟩ := Option.bind_eq_some_iff.mp replayed
            obtain ⟨⟨rest, result', u'⟩, ran, ends⟩ := Option.bind_eq_some_iff.mp replayed
            obtain ⟨rfl, rfl, rfl⟩ := by simpa using ends
            refine .answered (fun isLost through => ?_) (sound op s answer t executed) (ih ran)
            by_contra stale
            exact refuses ⟨isLost, through, by simpa using stale⟩

end Link

end DicePipeline.Interaction
