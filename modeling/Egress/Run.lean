import Egress.Host
import Egress.Notice

/-!
# Runs

A run has a result, and on the way to it asks a prober for routes, makes calls to the host and
reports notices. It stops at its first failure; what was recorded until then stays recorded.
-/

namespace Egress

structure Run (α : Type) where
  result : Except Failure α
  /-- The destinations that a prober was asked for. -/
  probed : List Destination := []
  calls : List Call := []
  notices : List Notice := []

namespace Run

/-! ## Steps -/

/-- A run that is over with the result, and nothing recorded. -/
def done {α : Type} (result : Except Failure α) : Run α := { result }

def andThen {α β : Type} (m : Run α) (f : α → Run β) : Run β :=
  match m.result with
  | .ok a =>
    let next := f a
    { result := next.result
      probed := m.probed ++ next.probed
      calls := m.calls ++ next.calls
      notices := m.notices ++ next.notices }
  | .error failure =>
    { result := .error failure, probed := m.probed, calls := m.calls, notices := m.notices }

instance : Monad Run where
  pure a := done (.ok a)
  bind := andThen

def fail {α : Type} (failure : Failure) : Run α := done (.error failure)

def note (notice : Notice) : Run Unit := { result := .ok (), notices := [notice] }

/-- A question to a prober, whatever its reply will be. -/
def question (d : Destination) : Run Unit := { result := .ok (), probed := [d] }

/-- One call to the host, which ends the run with the failure if it is refused. -/
def ask {α : Type} (call : Call) (answer : Except Errno α) (failure : Cause → Failure) : Run α where
  result := answer.mapError fun errno => failure (.os errno)
  calls := [call]

/-! ## Laws -/

@[simp] theorem bind_eq_andThen {α β : Type} (m : Run α) (f : α → Run β) :
    m >>= f = m.andThen f := rfl

@[simp] theorem pure_eq_done {α : Type} (a : α) : (pure a : Run α) = done (.ok a) := rfl

@[simp] theorem liftM_eq {α : Type} (m : Run α) : (liftM m : Run α) = m := rfl

@[simp] theorem ask_ok {α : Type} (call : Call) (a : α) (failure : Cause → Failure) :
    ask call (.ok a) failure = { result := .ok a, calls := [call] } := rfl

@[simp] theorem ask_error {α : Type} (call : Call) (errno : Errno) (failure : Cause → Failure) :
    (ask call (.error errno) failure : Run α) =
      { result := .error (failure (.os errno)), calls := [call] } := rfl

theorem andThen_of_ok {α β : Type} {m : Run α} {a : α} (h : m.result = .ok a)
    (f : α → Run β) :
    m.andThen f =
      { result := (f a).result
        probed := m.probed ++ (f a).probed
        calls := m.calls ++ (f a).calls
        notices := m.notices ++ (f a).notices } := by
  simp [andThen, h]

theorem andThen_of_error {α β : Type} {m : Run α} {failure : Failure}
    (h : m.result = .error failure) (f : α → Run β) :
    m.andThen f =
      { result := .error failure, probed := m.probed, calls := m.calls, notices := m.notices } := by
  simp [andThen, h]

/-- What a run records does not change what it leads to. -/
theorem result_andThen {α β : Type} (m : Run α) (f : α → Run β) :
    (m.andThen f).result = m.result.bind fun a => (f a).result := by
  cases h : m.result <;> simp [andThen, h, Except.bind]

theorem andThen_assoc {α β γ : Type} (m : Run α) (f : α → Run β) (g : β → Run γ) :
    (m.andThen f).andThen g = m.andThen fun a => (f a).andThen g := by
  rcases m with ⟨result, probed, calls, notices⟩
  cases result with
  | error failure => rfl
  | ok a =>
    simp only [andThen]
    cases (f a).result <;> simp

/-! ## Questions -/

/-- The run without the questions that it asked. -/
def unasked {α : Type} (m : Run α) : Run α := { m with probed := [] }

theorem unasked_andThen {α β : Type} (m : Run α) (f : α → Run β) :
    (m.andThen f).unasked = m.unasked.andThen fun a => (f a).unasked := by
  cases h : m.result <;> simp [unasked, andThen, h]

end Run
end Egress
