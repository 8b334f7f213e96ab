import CredentialSync.Notifier

/-!
# What observers are told

A notifier does not own its observers: a release is noticed at the next notification, which clears the
registrations of the released observer away (`Notifier.prune`).

An `Audience` is a notifier with what has happened to it (`past`) and the calls its observers got
(`calls`). In answer to a call, new observers may be made, registered and released; they are part of
the history like everything else. `past` knows nothing of clearing away, and says by itself which
registrations are live (`liveIn`) and what an observer is due (`due`).

Whatever happens, the notifier is `InStep` with its past, and so nobody misses a batch or gets one
twice (`Audience.run_faithful`).
-/

namespace CredentialSync

namespace Notifier

/-! ## 1. Live registrations -/

variable {n : Notifier}

/-- Clearing away released observers keeps the live ones. -/
@[simp] theorem live_prune (n : Notifier) : n.prune.live = n.live := by
  simp only [live, prune, List.filter_filter, Bool.and_self]

/-- All registered observers have got their identities. -/
def Known (n : Notifier) : Prop := ∀ o ∈ n.registered, o < n.nextId

theorem Known.prune (h : n.Known) : n.prune.Known := fun o ho => h o (List.mem_filter.1 ho).1

/-! ## 2. The past -/

/-- What the owners of observers do. -/
inductive Change where
  /-- An observer is made, not yet registered. -/
  | make
  | register (o : ObserverId)
  | release (o : ObserverId)
  deriving DecidableEq

/-- What happens to a notifier. -/
inductive Event where
  | change (c : Change)
  | notify (batch : ChangeBatch)
  deriving DecidableEq

/-- Carries a change out. -/
def change (n : Notifier) : Change → Notifier
  | .make => n.observer.2
  | .register o => n.register o
  | .release o => n.release o

/-- Only an observer that has been made is registered or released. -/
def Possible (n : Notifier) : Change → Prop
  | .make => True
  | .register o | .release o => o < n.nextId

instance (n : Notifier) : DecidablePred n.Possible
  | .make => inferInstanceAs (Decidable True)
  | .register o | .release o => inferInstanceAs (Decidable (o < n.nextId))

/-- The registrations that were made, in order. -/
def registrations : List Event → List ObserverId
  | [] => []
  | .change (.register o) :: past => o :: registrations past
  | _ :: past => registrations past

/-- The batches that were notified, in order. -/
def notified : List Event → List ChangeBatch
  | [] => []
  | .notify batch :: past => batch :: notified past
  | _ :: past => notified past

/-- The observer has been released. -/
abbrev Released (o : ObserverId) (past : List Event) : Prop := .change (.release o) ∈ past

/-- The registrations of the observers that have not been released. -/
def liveIn (past : List Event) : List ObserverId :=
  (registrations past).filter fun o => ¬ Released o past

/-- What an observer with `n` registrations is due: until its release each batch that is notified,
once for each registration. -/
def due (o : ObserverId) (n : Nat) : List Event → List ChangeBatch
  | [] => []
  | .change (.register o') :: past => due o (if o' = o then n + 1 else n) past
  | .change (.release o') :: past => if o' = o then [] else due o n past
  | .change .make :: past => due o n past
  | .notify batch :: past => List.replicate n batch ++ due o n past

@[simp] theorem registrations_append (past later : List Event) :
    registrations (past ++ later) = registrations past ++ registrations later := by
  fun_induction registrations past <;> simp_all [registrations]

theorem liveIn_notify (past : List Event) (batch : ChangeBatch) :
    liveIn (past ++ [.notify batch]) = liveIn past := by
  simp [liveIn, registrations]

theorem count_liveIn (o : ObserverId) (past : List Event) :
    (liveIn past).count o = if Released o past then 0 else (registrations past).count o := by
  by_cases h : Released o past
  · rw [if_pos h]
    exact List.count_eq_zero_of_not_mem fun hmem => by simpa [h] using (List.mem_filter.1 hmem).2
  · rw [if_neg h, liveIn, List.count_filter (by simpa using h)]

theorem due_append (o : ObserverId) (n : Nat) (past later : List Event) :
    due o n (past ++ later) = due o n past ++
      if Released o past then [] else due o (n + (registrations past).count o) later := by
  fun_induction due o n past with
  | case1 n => simp [registrations]
  | case2 n o' past ih =>
    simp only [List.cons_append, due, ih, registrations, List.count_cons, Released, List.mem_cons,
      reduceCtorEq, Event.change.injEq, false_or, beq_iff_eq]
    split <;> simp only [Nat.add_assoc, Nat.add_comm 1, Nat.add_zero]
  | case3 n past => simp [due]
  | case4 n o' past hne ih =>
    simp [due, ih, registrations, hne, Ne.symm hne]
  | case5 n past ih => simp [due, ih, registrations]
  | case6 n batch past ih => simp [due, ih, registrations, List.append_assoc]

/-- A release ends what an observer is due. -/
theorem due_of_released {o : ObserverId} {past : List Event} (h : Released o past) (n : Nat)
    (later : List Event) : due o n (past ++ later) = due o n past := by
  rw [due_append, if_pos h, List.append_nil]

/-- Changes bring no batch. -/
theorem due_changes (o : ObserverId) (n : Nat) (cs : List Change) :
    due o n (cs.map .change) = [] := by
  induction cs generalizing n with
  | nil => rfl
  | cons c cs ih => cases c <;> simp [due, ih]

/-- With the same registrations all the time, an observer is due every batch as often. -/
theorem due_of_registered {o : ObserverId} {past : List Event} (n : Nat)
    (hregistered : o ∉ registrations past) (hreleased : ¬ Released o past) :
    due o n past = (notified past).flatMap (List.replicate n) := by
  fun_induction due o n past with
  | case1 n => rfl
  | case2 n o' past ih =>
    simp only [registrations, List.mem_cons, not_or] at hregistered
    simp_all [notified, Ne.symm hregistered.1]
  | case3 n past => simp [Released] at hreleased
  | case4 n o' past hne ih => simp_all [registrations, notified]
  | case5 n past ih => simp_all [registrations, notified]
  | case6 n batch past ih => simp_all [registrations, notified]

/-- **An observer that is registered once is due the batches between its registration and its
release**, or all since its registration if it has not been released. -/
theorem due_between {o : ObserverId} {before during after : List Event}
    (hregistered : o ∉ registrations (before ++ during)) (hreleased : ¬ Released o (before ++ during))
    (hafter : after = [] ∨ ∃ rest, after = .change (.release o) :: rest) :
    due o 0 (before ++ .change (.register o) :: (during ++ after)) = notified during := by
  rw [registrations_append, List.mem_append, not_or] at hregistered
  rw [Released, List.mem_append, not_or] at hreleased
  have hbefore : due o 0 before = [] := by
    rw [due_of_registered 0 hregistered.1 hreleased.1]
    exact List.flatMap_eq_nil_iff.2 fun _ _ => rfl
  have hduring : due o 1 during = notified during := by
    rw [due_of_registered 1 hregistered.2 hreleased.2]
    exact List.flatMap_singleton' _
  have hnone : ∀ n, due o n after = [] := by
    rcases hafter with rfl | ⟨rest, rfl⟩
    · exact fun _ => rfl
    · exact fun _ => if_pos rfl
  rw [due_append, hbefore, if_neg hreleased.1, List.count_eq_zero_of_not_mem hregistered.1, due,
    if_pos rfl, due_append, hduring, hnone, ite_self, List.append_nil, List.nil_append]

/-! ## 3. In step with the past -/

/-- The notifier has cleared away nothing but registrations of released observers. -/
structure InStep (n : Notifier) (past : List Event) : Prop where
  known : n.Known
  /-- Only observers that were made have been released. -/
  made : ∀ o, Released o past → o < n.nextId
  alive : ∀ o, o ∈ n.alive ↔ o < n.nextId ∧ ¬ Released o past
  kept : n.registered.filter (fun o => ¬ Released o past) = liveIn past

namespace InStep

variable {past : List Event}

/-- **The live registrations are those of the past.** -/
theorem live_eq (h : n.InStep past) : n.live = liveIn past := by
  rw [← h.kept, live]
  refine List.filter_congr fun o ho => ?_
  rw [Bool.eq_iff_iff, List.contains_iff_mem, decide_eq_true_iff, h.alive]
  exact ⟨And.right, fun hlive => ⟨h.known o ho, hlive⟩⟩

theorem start (capacity : Nat) : (ofCapacity capacity).InStep [] where
  known := List.forall_mem_nil _
  made _ ho := absurd ho List.not_mem_nil
  alive o := ⟨fun ho => absurd ho List.not_mem_nil, fun ho => absurd ho.1 (Nat.not_lt_zero o)⟩
  kept := rfl

theorem notify (h : n.InStep past) (batch : ChangeBatch) : n.InStep (past ++ [.notify batch]) where
  known := h.known
  made o ho := h.made o (by simpa using ho)
  alive o := by simpa using h.alive o
  kept := by simpa [liveIn_notify] using h.kept

theorem prune (h : n.InStep past) : n.prune.InStep past where
  known := h.known.prune
  made := h.made
  alive := h.alive
  kept := by
    change n.live.filter _ = liveIn past
    rw [h.live_eq, liveIn, List.filter_filter]
    simp only [Bool.and_self]

theorem setChannel (h : n.InStep past) (c : Broadcast ChangeBatch) :
    { n with channel := c }.InStep past := ⟨h.known, h.made, h.alive, h.kept⟩

theorem make (h : n.InStep past) : n.observer.2.InStep (past ++ [.change .make]) where
  known o ho := Nat.lt_succ_of_lt (h.known o ho)
  made o ho := Nat.lt_succ_of_lt (h.made o (by simpa using ho))
  alive o := by
    -- the new observer cannot have been released
    have hfresh : ¬ Released n.nextId past := fun ho => Nat.lt_irrefl _ (h.made _ ho)
    have halive := h.alive o
    simp only [observer, List.mem_append, List.mem_singleton, Released, Event.change.injEq,
      reduceCtorEq, or_false] at hfresh halive ⊢
    grind
  kept := by simpa [observer, liveIn, registrations] using h.kept

theorem register (h : n.InStep past) {o : ObserverId} (hmade : o < n.nextId) :
    (n.register o).InStep (past ++ [.change (.register o)]) where
  known o' ho' := by
    rcases List.mem_append.1 ho' with ho' | ho'
    · exact h.known o' ho'
    · exact List.mem_singleton.1 ho' ▸ hmade
  made o' ho' := h.made o' (by simpa using ho')
  alive o' := by simpa [Notifier.register] using h.alive o'
  kept := by
    have hkept := h.kept
    simp only [liveIn, Notifier.register, registrations_append, registrations, List.filter_append,
      Released, List.mem_append, List.mem_singleton, Event.change.injEq, reduceCtorEq,
      or_false] at hkept ⊢
    rw [hkept]

theorem release (h : n.InStep past) {o : ObserverId} (hmade : o < n.nextId) :
    (n.release o).InStep (past ++ [.change (.release o)]) where
  known := h.known
  made o' ho' := by
    rcases List.mem_append.1 ho' with ho' | ho'
    · exact h.made o' ho'
    · obtain rfl : o' = o := by simpa using ho'
      exact hmade
  alive o' := by
    have halive := h.alive o'
    simp only [Notifier.release, List.mem_filter, bne_iff_ne, Released, List.mem_append,
      List.mem_singleton, Event.change.injEq, Change.release.injEq] at halive ⊢
    grind
  kept := by
    -- both sides lose the registrations of the released observer
    have hkept := congrArg (List.filter (· ≠ o)) h.kept
    simp only [liveIn, List.filter_filter] at hkept ⊢
    simpa [Notifier.release, registrations, Bool.and_comm] using hkept

/-- **A change keeps the notifier in step.** -/
theorem change (h : n.InStep past) {c : Change} (hpossible : n.Possible c) :
    (n.change c).InStep (past ++ [.change c]) := by
  cases c with
  | make => exact h.make
  | register o => exact h.register hpossible
  | release o => exact h.release hpossible

end InStep

/-! ## 4. Audiences -/

/-- A notifier with its history. -/
structure Audience where
  notifier : Notifier
  /-- What has happened, oldest first. -/
  past : List Event := []
  /-- The calls of observers, oldest first. -/
  calls : List (ObserverId × ChangeBatch) := []
  deriving DecidableEq

namespace Audience

/-- What is done in answer to the last of the calls so far. -/
abbrev Answer := List (ObserverId × ChangeBatch) → List Change

/-- Carries a change out if it is possible. -/
def change (a : Audience) (c : Change) : Audience :=
  if a.notifier.Possible c then
    { a with notifier := a.notifier.change c, past := a.past ++ [.change c] }
  else a

/-- An observer is called. -/
def call (answer : Answer) (o : ObserverId) (batch : ChangeBatch) (a : Audience) : Audience :=
  let calls := a.calls ++ [(o, batch)]
  (answer calls).foldl change { a with calls }

/-- A batch is notified. Gives the number of calls. -/
def notify (answer : Answer) (batch : ChangeBatch) (a : Audience) : Nat × Audience :=
  Notifier.notify Audience.notifier (fun n a => { a with notifier := n }) (call answer) batch
    { a with past := a.past ++ [.notify batch] }

/-- One event. -/
def step (answer : Answer) (a : Audience) : Event → Audience
  | .change c => a.change c
  | .notify batch => (a.notify answer batch).2

/-- A sequence of events. -/
def run (answer : Answer) (a : Audience) (events : List Event) : Audience :=
  events.foldl (step answer) a

/-- An audience without observers. -/
def ofCapacity (capacity : Nat) : Audience := { notifier := .ofCapacity capacity }

/-- The batches that an observer was called with, in order. -/
def heard (a : Audience) (o : ObserverId) : List ChangeBatch :=
  (a.calls.filter (·.1 == o)).map (·.2)

/-- `b` comes from `a` by calls and changes. -/
structure Called (calls : List (ObserverId × ChangeBatch)) (a b : Audience) : Prop where
  calls : b.calls = a.calls ++ calls
  past : ∃ cs : List Change, b.past = a.past ++ cs.map .change
  inStep : a.notifier.InStep a.past → b.notifier.InStep b.past

variable {a b c : Audience} {xs ys : List (ObserverId × ChangeBatch)}

theorem Called.refl (a : Audience) : Called [] a a :=
  ⟨(List.append_nil _).symm, ⟨[], (List.append_nil _).symm⟩, id⟩

theorem Called.trans (h : Called xs a b) (h' : Called ys b c) : Called (xs ++ ys) a c := by
  obtain ⟨hcalls, ⟨cs, hpast⟩, hstep⟩ := h
  obtain ⟨hcalls', ⟨cs', hpast'⟩, hstep'⟩ := h'
  exact ⟨by rw [hcalls', hcalls, List.append_assoc],
    ⟨cs ++ cs', by rw [hpast', hpast, List.map_append, List.append_assoc]⟩, hstep' ∘ hstep⟩

theorem called_change (a : Audience) (c : Change) : Called [] a (a.change c) := by
  rw [change]
  split
  · next hpossible => exact ⟨(List.append_nil _).symm, ⟨[c], rfl⟩, fun h => h.change hpossible⟩
  · exact .refl a

theorem called_changes (a : Audience) (cs : List Change) : Called [] a (cs.foldl change a) := by
  induction cs generalizing a with
  | nil => exact .refl a
  | cons c cs ih => exact (a.called_change c).trans (ih (a.change c))

theorem called_call (answer : Answer) (o : ObserverId) (batch : ChangeBatch) (a : Audience) :
    Called [(o, batch)] a (a.call answer o batch) :=
  have hcalled : Called [(o, batch)] a { a with calls := a.calls ++ [(o, batch)] } :=
    ⟨rfl, ⟨[], (List.append_nil _).symm⟩, id⟩
  hcalled.trans (called_changes _ _)

/-- One after the other, observers are called. -/
theorem called_all (answer : Answer) (os : List ObserverId) (batch : ChangeBatch) (a : Audience) :
    Called (os.map (·, batch)) a (os.foldl (fun a o => a.call answer o batch) a) := by
  induction os generalizing a with
  | nil => exact .refl a
  | cons o os ih => exact (a.called_call answer o batch).trans (ih _)

/-- A notification first clears away the released observers, and then calls those that are live. -/
theorem called_notify (h : a.notifier.InStep a.past) (answer : Answer) (batch : ChangeBatch) :
    (a.notify answer batch).1 = (liveIn a.past).length ∧
      Called ((liveIn a.past).map (·, batch)) { a with past := a.past ++ [.notify batch] }
        (a.notify answer batch).2 := by
  unfold notify Notifier.notify
  rw [h.live_eq]
  refine ⟨rfl, ?_⟩
  have hpruned : Called [] { a with past := a.past ++ [.notify batch] }
      { a with notifier := a.notifier.prune, past := a.past ++ [.notify batch] } :=
    ⟨(List.append_nil _).symm, ⟨[], (List.append_nil _).symm⟩, InStep.prune⟩
  have hsent (b : Audience) (c : Broadcast ChangeBatch) :
      Called [] b { b with notifier := { b.notifier with channel := c } } :=
    ⟨(List.append_nil _).symm, ⟨[], (List.append_nil _).symm⟩, fun h => h.setChannel c⟩
  simpa using (hpruned.trans (called_all answer _ batch _)).trans (hsent _ _)

/-! ## 5. Every run -/

/-- The notifier is in step with the past, and the observers were called with what they are due. -/
structure Sound (a : Audience) : Prop where
  inStep : a.notifier.InStep a.past
  heard : ∀ o, a.heard o = due o 0 a.past

theorem Called.heard (h : Called xs a b) (o : ObserverId) :
    b.heard o = a.heard o ++ (xs.filter (·.1 == o)).map (·.2) := by
  rw [Audience.heard, h.calls, List.filter_append, List.map_append, Audience.heard]

/-- The calls of one notification that go to an observer. -/
theorem heard_batch (os : List ObserverId) (batch : ChangeBatch) (o : ObserverId) :
    ((os.map (·, batch)).filter (·.1 == o)).map (·.2) = List.replicate (os.count o) batch := by
  rw [List.filter_map, List.map_map, List.count_eq_length_filter]
  exact List.map_const'

theorem Sound.start (capacity : Nat) : (ofCapacity capacity).Sound :=
  ⟨.start capacity, fun _ => rfl⟩

theorem Sound.change (h : a.Sound) (c : Change) : (a.change c).Sound := by
  have hcalled := a.called_change c
  obtain ⟨cs, hpast⟩ := hcalled.past
  refine ⟨hcalled.inStep h.inStep, fun o => ?_⟩
  rw [hcalled.heard, hpast, due_append, due_changes, ite_self, h.heard]
  rfl

theorem Sound.notify (h : a.Sound) (answer : Answer) (batch : ChangeBatch) :
    (a.notify answer batch).2.Sound := by
  obtain ⟨-, hcalled⟩ := called_notify h.inStep answer batch
  obtain ⟨cs, hpast⟩ := hcalled.past
  refine ⟨hcalled.inStep (h.inStep.notify batch), fun o => ?_⟩
  rw [hcalled.heard, heard_batch, count_liveIn, hpast, List.append_assoc, due_append]
  simp only [Nat.zero_add, List.singleton_append, due, due_changes, List.append_nil]
  rw [← h.heard o]
  split <;> rfl

/-- **One event.** -/
theorem Sound.step (h : a.Sound) (answer : Answer) (e : Event) : (a.step answer e).Sound := by
  cases e with
  | change c => exact h.change c
  | notify batch => exact h.notify answer batch

/-- **Any sequence of events.** -/
theorem Sound.run (h : a.Sound) (answer : Answer) (events : List Event) :
    (a.run answer events).Sound := by
  induction events generalizing a with
  | nil => exact h
  | cons e events ih => exact ih (h.step answer e)

theorem Sound.past_step (h : a.Sound) (answer : Answer) (e : Event) :
    ∃ later, (a.step answer e).past = a.past ++ later := by
  cases e with
  | change c => exact (a.called_change c).past.elim fun cs hpast => ⟨_, hpast⟩
  | notify batch =>
    obtain ⟨cs, hpast⟩ := (called_notify h.inStep answer batch).2.past
    exact ⟨_, hpast.trans (List.append_assoc _ _ _)⟩

theorem Sound.past_run (h : a.Sound) (answer : Answer) (events : List Event) :
    ∃ later, (a.run answer events).past = a.past ++ later := by
  induction events generalizing a with
  | nil => exact ⟨[], (List.append_nil _).symm⟩
  | cons e events ih =>
    obtain ⟨now, hnow⟩ := h.past_step answer e
    obtain ⟨later, hlater⟩ := ih (h.step answer e)
    refine ⟨now ++ later, ?_⟩
    rw [Audience.run, List.foldl_cons, ← Audience.run, hlater, hnow, List.append_assoc]

/-- Nobody misses a batch or gets one twice. -/
structure Faithful (answer : Answer) (a : Audience) : Prop where
  /-- The next notification calls the observers that have not been released, once for each
  registration and in the order of the registrations, -/
  called : ∀ batch, (a.notify answer batch).2.calls = a.calls ++ (liveIn a.past).map (·, batch)
  /-- and gives the number of these calls. -/
  number : ∀ batch, (a.notify answer batch).1 = (liveIn a.past).length
  /-- An observer was called with what it is due, -/
  heard : ∀ o, a.heard o = due o 0 a.past
  /-- which are the batches between its registration and its release. -/
  between : ∀ o before during after,
    a.past = before ++ .change (.register o) :: (during ++ after) →
    o ∉ registrations (before ++ during) → ¬ Released o (before ++ during) →
    (after = [] ∨ ∃ rest, after = .change (.release o) :: rest) →
    a.heard o = notified during
  /-- After its release it is never called again. -/
  silent : ∀ o, Released o a.past → ∀ events, (a.run answer events).heard o = a.heard o
  /-- All registrations of observers that have not been released are there, in order. -/
  kept : a.notifier.registered.filter (fun o => ¬ Released o a.past) = liveIn a.past
  count : a.notifier.observerCount = (liveIn a.past).length

theorem Sound.faithful (h : a.Sound) (answer : Answer) : a.Faithful answer where
  called batch := (called_notify h.inStep answer batch).2.calls
  number batch := (called_notify h.inStep answer batch).1
  heard := h.heard
  between o before during after hpast hregistered hreleased hafter := by
    rw [h.heard, hpast, due_between hregistered hreleased hafter]
  silent o hreleased events := by
    obtain ⟨later, hlater⟩ := h.past_run answer events
    rw [(h.run answer events).heard, hlater, due_of_released hreleased, ← h.heard]
  kept := h.inStep.kept
  count := congrArg List.length h.inStep.live_eq

/-- **Whatever is made, registered, released and notified, and whatever the observers answer: nobody
misses a batch or gets one twice.** -/
theorem run_faithful (answer : Answer) (capacity : Nat) (events : List Event) :
    ((ofCapacity capacity).run answer events).Faithful answer :=
  ((Sound.start capacity).run answer events).faithful answer

/-- An observer registered twice is called twice, and no more after its release. -/
example (batch : ChangeBatch) :
    ((ofCapacity 1).run (fun _ => []) [.change .make, .change .make, .change (.register 0),
      .change (.register 1), .change (.register 0), .notify batch, .change (.release 0),
      .notify batch]).calls = [(0, batch), (1, batch), (0, batch), (1, batch)] := rfl

end Audience

end Notifier

end CredentialSync
