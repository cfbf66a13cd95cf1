import Mathlib.Order.Defs.Unbundled
import Quicz.Lib.Trace

/-! Procedures that read and change a state and may fail. A failure keeps the
changes made before it: there is no implicit rollback. The rules below compute
what holds after a procedure from its text, for either way it can end. -/
namespace Proc

variable {ε σ α β : Type}

/-- What holds after running the procedure from s: Q when it returns, E when it fails. -/
def wp (m : EStateM ε σ α) (Q : α → σ → Prop) (E : ε → σ → Prop) (s : σ) : Prop :=
  match m s with
  | .ok a t => Q a t
  | .error e t => E e t

/-- The state the procedure leaves, whichever way it ends. -/
def after (m : EStateM ε σ α) (s : σ) : σ :=
  match m s with
  | .ok _ t => t
  | .error _ t => t

def failsWith (m : EStateM ε σ α) (s : σ) : Option ε :=
  match m s with
  | .ok _ _ => none
  | .error e _ => some e

/-- How the procedure ends, apart from the state. -/
def outcome (m : EStateM ε σ α) (s : σ) : Except ε α :=
  match m s with
  | .ok a _ => .ok a
  | .error e _ => .error e

/-- Undoes changes by the given function when the procedure fails. -/
def onError (m : EStateM ε σ α) (undo : σ → σ) : EStateM ε σ α := fun s =>
  match m s with
  | .ok a t => .ok a t
  | .error e t => .error e (undo t)

/-- Hands a failure, and the state it left, to the handler. -/
def recover (m : EStateM ε σ α) (handle : ε → EStateM ε σ α) : EStateM ε σ α := fun s =>
  match m s with
  | .ok a t => .ok a t
  | .error e t => handle e t

def zoom {τ : Type} (part : σ → τ) (put : τ → σ → σ) (m : EStateM ε τ α) : EStateM ε σ α := fun s =>
  match m (part s) with
  | .ok a t => .ok a (put t s)
  | .error e t => .error e (put t s)

/-- The same procedure, with its failures as failures of another kind. -/
def rethrow {δ : Type} (f : ε → δ) (m : EStateM ε σ α) : EStateM δ σ α := fun s =>
  match m s with
  | .ok a t => .ok a t
  | .error e t => .error (f e) t

def orThrow (x : Option α) (e : ε) : EStateM ε σ α :=
  match x with
  | some a => pure a
  | none => throw e

def lift (x : Except ε α) : EStateM ε σ α :=
  match x with
  | .ok a => pure a
  | .error e => throw e

variable (c : Prop)

def failIf [Decidable c] (e : ε) : EStateM ε σ Unit := if c then throw e else pure ()

variable {Q : α → σ → Prop} {R : β → σ → Prop} {E : ε → σ → Prop} {s : σ}

@[simp] theorem wp_pure (a : α) : wp (pure a : EStateM ε σ α) Q E s ↔ Q a s := Iff.rfl

@[simp] theorem wp_throw (e : ε) : wp (throw e : EStateM ε σ α) Q E s ↔ E e s := Iff.rfl

@[simp] theorem wp_get {G : σ → σ → Prop} : wp (get : EStateM ε σ σ) G E s ↔ G s s := Iff.rfl

variable {U : PUnit → σ → Prop} {m : EStateM ε σ α} {a : α} {t : σ}

@[simp] theorem wp_set (t : σ) : wp (set t : EStateM ε σ PUnit) U E s ↔ U ⟨⟩ t := Iff.rfl

@[simp] theorem wp_modify (f : σ → σ) : wp (modify f : EStateM ε σ PUnit) U E s ↔ U ⟨⟩ (f s) := Iff.rfl

@[simp] theorem wp_bind (m : EStateM ε σ α) (f : α → EStateM ε σ β) :
    wp (m >>= f) R E s ↔ wp m (fun a t => wp (f a) R E t) E s := by
  simp only [wp, bind, EStateM.bind]
  cases m s <;> rfl

@[simp] theorem wp_forM_cons (f : α → EStateM ε σ PUnit) (x : α) (xs : List α) :
    wp ((x :: xs).forM f) U E s ↔ wp (f x) (fun _ t => wp (xs.forM f) U E t) E s :=
  wp_bind (f x) fun _ => xs.forM f

@[simp] theorem wp_ite [Decidable c] (m n : EStateM ε σ α) :
    wp (if c then m else n) Q E s ↔ (c → wp m Q E s) ∧ (¬ c → wp n Q E s) := by
  by_cases h : c <;> simp [h]

@[simp] theorem wp_onError (m : EStateM ε σ α) (undo : σ → σ) :
    wp (onError m undo) Q E s ↔ wp m Q (fun e t => E e (undo t)) s := by
  simp only [wp, onError]
  cases m s <;> rfl

@[simp] theorem wp_recover (m : EStateM ε σ α) (handle : ε → EStateM ε σ α) :
    wp (recover m handle) Q E s ↔ wp m Q (fun e t => wp (handle e) Q E t) s := by
  simp only [wp, recover]
  cases m s <;> rfl

@[simp] theorem wp_rethrow {δ : Type} {D : δ → σ → Prop} (f : ε → δ) (m : EStateM ε σ α) :
    wp (rethrow f m) Q D s ↔ wp m Q (fun e => D (f e)) s := by
  simp only [wp, rethrow]
  cases m s <;> rfl

@[simp] theorem wp_zoom {τ : Type} (part : σ → τ) (put : τ → σ → σ) (m : EStateM ε τ α) :
    wp (zoom part put m) Q E s ↔ wp m (fun a t => Q a (put t s)) (fun e t => E e (put t s)) (part s) := by
  simp only [wp, zoom]
  cases m (part s) <;> rfl

@[simp] theorem wp_orThrow (x : Option α) (e : ε) :
    wp (orThrow x e : EStateM ε σ α) Q E s ↔ (∀ a, x = some a → Q a s) ∧ (x = none → E e s) := by
  cases x <;> simp [orThrow]

@[simp] theorem wp_lift (x : Except ε α) :
    wp (lift x : EStateM ε σ α) Q E s ↔ (∀ a, x = .ok a → Q a s) ∧ (∀ e, x = .error e → E e s) := by
  cases x <;> simp [lift]

@[simp] theorem wp_failIf {U : Unit → σ → Prop} [Decidable c] (e : ε) :
    wp (failIf c e : EStateM ε σ Unit) U E s ↔ (c → E e s) ∧ (¬ c → U () s) := by
  simp [failIf]

theorem wp_failIf_bind [Decidable c] (e : ε) (f : Unit → EStateM ε σ α) :
    wp (failIf c e >>= f) Q E s ↔ (c → E e s) ∧ (¬ c → wp (f ()) Q E s) := by
  rw [wp_bind, wp_failIf]

variable {Q' : α → σ → Prop} {E' : ε → σ → Prop}

theorem wp_mono (h : wp m Q E s) (returns : ∀ a t, Q a t → Q' a t)
    (fails : ∀ e t, E e t → E' e t := by exact fun _ _ h => h) : wp m Q' E' s := by
  simp only [wp] at h ⊢
  cases run : m s with
  | ok a t => rw [run] at h; exact returns a t h
  | error e t => rw [run] at h; exact fails e t h

theorem wp_and (h : wp m Q E s) (h' : wp m Q' E' s) :
    wp m (fun a t => Q a t ∧ Q' a t) (fun e t => E e t ∧ E' e t) s := by
  simp only [wp] at h h' ⊢
  cases run : m s <;> simp_all

theorem wp_returns (run : m s = .ok a t) (h : wp m Q E s) : Q a t := by
  simpa only [wp, run] using h

theorem run_bind_ok (run : m s = .ok a t) (f : α → EStateM ε σ β) : (m >>= f) s = f a t := by
  simp only [bind, EStateM.bind, run]

variable {e : ε}

theorem run_bind_error (run : m s = .error e t) (f : α → EStateM ε σ β) : (m >>= f) s = .error e t := by
  simp only [bind, EStateM.bind, run]

theorem run_failIf {c : Prop} [Decidable c] (h : ¬ c) (e : ε) : (failIf c e : EStateM ε σ Unit) s = .ok () s := by
  rw [failIf, if_neg h]
  rfl

theorem run_failIf_yes {c : Prop} [Decidable c] (h : c) (e : ε) :
    (failIf c e : EStateM ε σ Unit) s = .error e s := by
  rw [failIf, if_pos h]
  rfl

theorem run_ok (h : wp m (fun b u => b = a ∧ u = t) (fun _ _ => False) s) : m s = .ok a t := by
  simp only [wp] at h
  cases run : m s with
  | ok b u => rw [run] at h; rw [h.1, h.2]
  | error e u => rw [run] at h; exact h.elim

theorem run_error (h : wp m (fun _ _ => False) (fun d u => d = e ∧ u = t) s) : m s = .error e t := by
  simp only [wp] at h
  cases run : m s with
  | ok b u => rw [run] at h; exact h.elim
  | error d u => rw [run] at h; rw [h.1, h.2]

theorem outcome_ok (run : m s = .ok a t) : outcome m s = .ok a := by
  simp only [outcome, run]

theorem outcome_error (run : m s = .error e t) : outcome m s = .error e := by
  simp only [outcome, run]

theorem after_ok (run : m s = .ok a t) : after m s = t := by
  simp only [after, run]

theorem wp_exists (h : wp m Q (fun _ _ => False) s) : ∃ a t, m s = .ok a t ∧ Q a t := by
  simp only [wp] at h
  cases run : m s with
  | ok a t => rw [run] at h; exact ⟨a, t, rfl, h⟩
  | error e t => rw [run] at h; exact h.elim

theorem wp_fails (h : wp m (fun _ _ => False) E s) : ∃ e t, m s = .error e t ∧ E e t := by
  simp only [wp] at h
  cases run : m s with
  | ok a t => simp [run] at h
  | error e t => exact ⟨e, t, rfl, by simpa [run] using h⟩

theorem wp_after {I : σ → Prop} (h : wp m (fun _ => I) (fun _ => I) s) : I (after m s) := by
  simp only [wp] at h
  simp only [after]
  cases run : m s <;> (rw [run] at h; exact h)

theorem wp_run (h : wp m Q E s) :
    wp m (fun a t => m s = .ok a t ∧ Q a t) (fun e t => m s = .error e t ∧ E e t) s := by
  simp only [wp] at h ⊢
  cases run : m s <;> simp_all

theorem wp_self (m : EStateM ε σ α) (s : σ) : wp m (fun _ t => t = after m s) (fun _ t => t = after m s) s := by
  simp only [wp, after]
  cases m s <;> rfl

/-- The relation holds between the state before and the state after, however it ends. -/
def Steps (T : σ → σ → Prop) (m : EStateM ε σ α) : Prop :=
  ∀ s, wp m (fun _ t => T s t) (fun _ t => T s t) s

variable {T : σ → σ → Prop} {m : EStateM ε σ α}

theorem Steps.after (h : Steps T m) (s : σ) : T s (after m s) := wp_after (h s)

/-- What follows may use the state it read. -/
theorem Steps.get (next : ∀ s, wp (f s) (fun _ t => T s t) (fun _ t => T s t) s) : Steps T (get >>= f) := next

/-- What follows makes steps from any state. -/
theorem Steps.read (next : ∀ s, Steps T (f s)) : Steps T (MonadState.get >>= f) := .get fun s => next s s

theorem Steps.modify {f : σ → σ} (h : ∀ s, T s (f s)) : Steps T (modify f : EStateM ε σ PUnit) := h

theorem Steps.mono {T' : σ → σ → Prop} (h : Steps T m) (weaker : ∀ s t, T s t → T' s t) :
    Steps T' m := fun s => wp_mono (h s) (fun _ t => weaker s t) (fun _ t => weaker s t)

variable {n : EStateM ε σ α}

theorem Steps.ite [Decidable c] (yes : Steps T m) (no : Steps T n) : Steps T (if c then m else n) := by
  by_cases h : c
  · simpa [h] using yes
  · simpa [h] using no

variable [IsPreorder σ T] {f : σ → EStateM ε σ α}

theorem Steps.pure (a : α) : Steps T (Pure.pure a : EStateM ε σ α) := fun s => refl_of T s

theorem Steps.throw (e : ε) : Steps T (throw e : EStateM ε σ α) := fun s => refl_of T s

theorem Steps.failIf [Decidable c] (e : ε) : Steps T (failIf c e : EStateM ε σ Unit) :=
  .ite c (.throw e) (.pure ())

theorem Steps.orThrow (x : Option α) (e : ε) : Steps T (orThrow x e : EStateM ε σ α) := by
  cases x
  · exact .throw e
  · exact .pure _

theorem Steps.later (h : Steps T m) {s t : σ} (before : T s t) : wp m (fun _ u => T s u) (fun _ u => T s u) t :=
  wp_mono (h t) (fun _ _ next => trans_of T before next) (fun _ _ next => trans_of T before next)

theorem Steps.bind (first : Steps T m) {f : α → EStateM ε σ β} (next : ∀ a, Steps T (f a)) : Steps T (m >>= f) := by
  intro s
  rw [wp_bind]
  exact wp_mono (first s) (fun a t h => (next a).later h)

theorem Steps.guard {c : Prop} [Decidable c] (next : Steps T m) : Steps T (Proc.failIf c e >>= fun _ => m) :=
  .bind (.failIf c e) fun _ => next

theorem Steps.recover (h : Steps T m) {handle : ε → EStateM ε σ α} (next : ∀ e, Steps T (handle e)) :
    Steps T (recover m handle) := by
  intro s
  rw [wp_recover]
  exact wp_mono (h s) (fun _ _ k => k) fun e t k => (next e).later k

theorem Steps.forM {f : α → EStateM ε σ PUnit} (each : ∀ a, Steps T (f a)) (xs : List α) : Steps T (xs.forM f) := by
  induction xs with
  | nil => exact .pure PUnit.unit
  | cons x xs ih => exact .bind (each x) fun _ => ih

/-- From one state on: an error leaves a state related to it, a result one that fits the result. -/
def RunsFrom (T : σ → σ → Prop) (Q : α → σ → σ → Prop) (s : σ) (m : EStateM ε σ α) : Prop :=
  wp m (fun a t => Q a s t) (fun _ t => T s t) s

/-- Steps may come before what fits a result. -/
class Leads (T : σ → σ → Prop) (Q : α → σ → σ → Prop) : Prop where
  lead : ∀ {a s t u}, T s t → Q a t u → Q a s u

variable {T : σ → σ → Prop} {Q : α → σ → σ → Prop} {s : σ} {m : EStateM ε σ α}

theorem Steps.runs (h : ∀ s, RunsFrom T (fun _ => T) s m) : Steps T m := h

theorem RunsFrom.read (next : RunsFrom T Q s (f s)) : RunsFrom T Q s (MonadState.get >>= f) := next

theorem RunsFrom.ite {c : Prop} [Decidable c] (yes : c → RunsFrom T Q s m)
    (no : ¬ c → RunsFrom T Q s n) : RunsFrom T Q s (if c then m else n) := by
  split
  · exact yes ‹c›
  · exact no ‹¬ c›

theorem RunsFrom.commit {g : σ → σ} (h : Q a s (g s)) :
    RunsFrom T Q s ((modify g : EStateM ε σ PUnit) >>= fun _ => pure a) := h

variable [IsPreorder σ T]

theorem RunsFrom.throw (e : ε) : RunsFrom T Q s (throw e : EStateM ε σ α) := refl_of T s

theorem RunsFrom.failIf {c : Prop} [Decidable c] {f : Unit → EStateM ε σ α}
    (next : ¬ c → RunsFrom T Q s (f ())) : RunsFrom T Q s (failIf c e >>= f) := by
  rw [RunsFrom, wp_failIf_bind]
  exact ⟨fun _ => refl_of T s, next⟩

variable {f : β → EStateM ε σ α}

theorem RunsFrom.orThrow {x : Option β} (next : ∀ a, x = some a → RunsFrom T Q s (f a)) :
    RunsFrom T Q s (orThrow x e >>= f) := by
  rw [RunsFrom, wp_bind, wp_orThrow]
  exact ⟨next, fun _ => refl_of T s⟩

theorem RunsFrom.later [Leads T Q] (first : T s t) (next : RunsFrom T Q t m) :
    wp m (fun a u => Q a s u) (fun _ u => T s u) t :=
  wp_mono next (fun _ _ k => Leads.lead first k) fun _ _ k => trans_of T first k

theorem RunsFrom.step [Leads T Q] {g : σ → σ} (first : T s (g s)) {f : PUnit → EStateM ε σ α}
    (next : RunsFrom T Q (g s) (f ⟨⟩)) : RunsFrom T Q s (modify g >>= f) := by
  rw [RunsFrom, wp_bind, wp_modify]
  exact next.later first

theorem RunsFrom.bind [Leads T Q] {P : β → σ → Prop} {m : EStateM ε σ β}
    (first : RunsFrom T (fun b s t => T s t ∧ P b t) s m) (next : ∀ b t, P b t → RunsFrom T Q t (f b)) :
    RunsFrom T Q s (m >>= f) := by
  rw [RunsFrom, wp_bind]
  exact wp_mono first (fun b t h => (next b t h.2).later h.1)

theorem RunsFrom.after [Leads T Q] {m : EStateM ε σ β} (first : Steps T m) (next : ∀ b t, RunsFrom T Q t (f b)) :
    RunsFrom T Q s (m >>= f) := by
  rw [RunsFrom, wp_bind]
  exact wp_mono (first s) (fun b t h => (next b t).later h)

instance : Leads T fun _ : α => T := ⟨trans_of T⟩

instance {P : α → σ → Prop} : Leads T fun a s t => T s t ∧ P a t := ⟨fun first h => ⟨trans_of T first h.1, h.2⟩⟩

/-- Whatever the computation returns has the property. -/
def Returns (x : Except ε α) (P : α → Prop) : Prop := ∀ a, x = .ok a → P a

variable {P : α → Prop} {x : Except ε α}

theorem Returns.pure (h : P a) : Returns (Pure.pure a : Except ε α) P := by
  rintro _ ⟨⟩
  exact h

theorem Returns.throw (e : ε) : Returns (MonadExcept.throw e : Except ε α) P := nofun

variable {Q : β → Prop} {f : α → Except ε β}

theorem Returns.bind (first : Returns x P) (next : ∀ a, P a → Returns (f a) Q) : Returns (x >>= f) Q := by
  cases x with
  | error e => exact nofun
  | ok a => exact next a (first a rfl)

/-- Nothing is needed of an intermediate result. -/
theorem Returns.after (next : ∀ a, Returns (f a) Q) :
    Returns (x >>= f) Q := .bind (P := fun _ => True) (fun _ _ => trivial) fun a _ => next a

/-- The intermediate result is known up to a parameter. -/
theorem Returns.shaped {κ : Type*} {shape : κ → α} {f : α → β}
    (first : Returns x fun a => ∃ k, a = shape k) (each : ∀ k, Q (f (shape k))) :
    Returns (x >>= fun a => Pure.pure (f a)) Q :=
  .bind first fun _ ⟨k, same⟩ => .pure (same ▸ each k)

theorem Returns.ite {c : Prop} [Decidable c] {y : Except ε α} (yes : c → Returns x P)
    (no : ¬ c → Returns y P) : Returns (if c then x else y) P := by
  by_cases h : c
  · simpa [h] using yes h
  · simpa [h] using no h

theorem Returns.guard {c : Prop} [Decidable c] {f : PUnit → Except ε α}
    (next : ¬ c → Returns (f ⟨⟩) P) :
    Returns (if c then MonadExcept.throw e >>= f else f ⟨⟩) P := .ite (fun _ => nofun) next

theorem Returns.mono {Q : α → Prop} (h : Returns x P) (weaker : ∀ a, P a → Q a) : Returns x Q :=
  fun a returned => weaker a (h a returned)

end Proc
