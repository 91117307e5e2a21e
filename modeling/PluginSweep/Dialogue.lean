/-
PluginSweep/Dialogue.lean

Dialogues: computations that ask their surroundings.  A dialogue is done and
has a value, or it asks a question and goes on with the reply.  It says what
is asked and in which order, and leaves open who replies; `answer` runs it
against surroundings that keep a state.
-/

namespace PluginSweep

/-- A computation that asks questions of type `Q`, the reply to `q` being of type `R q`. -/
inductive Dialogue (Q : Type) (R : Q → Type) (α : Type) : Type
  | done (value : α)
  | ask (question : Q) (next : R question → Dialogue Q R α)

namespace Dialogue

variable {Q : Type} {R : Q → Type} {α β σ : Type}

/-- Goes on with `f` when the dialogue is done. -/
def bind : Dialogue Q R α → (α → Dialogue Q R β) → Dialogue Q R β
  | done value, f => f value
  | ask question next, f => ask question fun reply => (next reply).bind f

instance : Monad (Dialogue Q R) where
  pure := done
  bind := bind

/-- Asks one question. -/
def inquire (question : Q) : Dialogue Q R (R question) :=
  ask question done

/-- Runs the dialogue against surroundings that reply and change their state. -/
def answer (surroundings : (question : Q) → σ → R question × σ) : Dialogue Q R α → σ → α × σ
  | done value, state => (value, state)
  | ask question next, state =>
    let reply := surroundings question state
    answer surroundings (next reply.1) reply.2

/-- Carries the dialogue out in another kind of computation, in which `f q` takes the place of
every question `q`. -/
def carryOut {m : Type → Type} [Monad m] (f : (question : Q) → m (R question)) :
    Dialogue Q R α → m α
  | done value => pure value
  | ask question next => f question >>= fun reply => carryOut f (next reply)

/-! ### Laws -/

@[simp] theorem pure_eq_done (a : α) : (pure a : Dialogue Q R α) = done a := rfl

@[simp] theorem done_bind (a : α) (f : α → Dialogue Q R β) : (done a).bind f = f a := rfl

@[simp] theorem ask_bind (q : Q) (next : R q → Dialogue Q R α) (f : α → Dialogue Q R β) :
    (ask q next).bind f = ask q fun r => (next r).bind f := rfl

@[simp] theorem bind_done (d : Dialogue Q R α) : d.bind done = d := by
  induction d with
  | done a => rfl
  | ask q next ih => simp [bind, ih]

theorem bind_assoc {γ : Type} (d : Dialogue Q R α) (f : α → Dialogue Q R β)
    (g : β → Dialogue Q R γ) : (d.bind f).bind g = d.bind fun a => (f a).bind g := by
  induction d with
  | done a => rfl
  | ask q next ih => simp [bind, ih]

instance : LawfulMonad (Dialogue Q R) :=
  LawfulMonad.mk' _ (fun d => bind_done d) (fun _ _ => rfl) (fun d f g => bind_assoc d f g)

end Dialogue

end PluginSweep
