import Egress.Run

/-!
# Inquiries

What a prober replies may depend on how often it was asked. An inquiry is a run that may ask one: it
is told how often that happened before, and goes on from there with each question that it records.
-/

namespace Egress

def Inquiry (α : Type) : Type := Nat → Run α

namespace Inquiry

variable {α β : Type}

/-- The run of an inquiry whose prober was asked so often before. -/
def after (m : Inquiry α) (asked : Nat) : Run α := m asked

/-- How often the prober was asked before. -/
def asked : Inquiry Nat := fun asked => .done (.ok asked)

/-- The questions that the first part records have been asked before the second. -/
def andThen (m : Inquiry α) (f : α → Inquiry β) : Inquiry β := fun asked =>
  (m.after asked).andThen fun a => (f a).after (asked + (m.after asked).probed.length)

instance : Monad Inquiry where
  pure a := fun _ => pure a
  bind := andThen

/-- A run does not depend on what was asked before it. -/
instance : MonadLift Run Inquiry where
  monadLift m := fun _ => m

@[simp] theorem after_liftM (m : Run α) (asked : Nat) : (liftM m : Inquiry α).after asked = m := rfl

theorem after_bind (m : Inquiry α) (f : α → Inquiry β) (asked : Nat) :
    (m >>= f).after asked =
      (m.after asked).andThen fun a => (f a).after (asked + (m.after asked).probed.length) := rfl

end Inquiry
end Egress
