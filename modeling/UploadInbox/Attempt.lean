import UploadInbox.Error

/-!
# Attempts

An attempt changes a state in place, step by step, and may fail on the way. What was changed before
a step failed stays changed, and no step after it is taken.
-/
namespace UploadInbox

/-- Steps on a state that may fail. -/
abbrev Attempt (σ α : Type) := ExceptT Error (StateM σ) α

namespace Attempt

variable {σ α β : Type}

/-- How an attempt ends from a state, and the state that it leaves. -/
def outcome (attempt : Attempt σ α) (s : σ) : Except Error α × σ := (ExceptT.run attempt).run s

@[simp] theorem outcome_pure (a : α) (s : σ) : outcome (pure a) s = (.ok a, s) := rfl

@[simp] theorem outcome_throw (e : Error) (s : σ) :
    outcome (throw e : Attempt σ α) s = (.error e, s) := rfl

@[simp] theorem outcome_get (s : σ) : outcome (get : Attempt σ σ) s = (.ok s, s) := rfl

@[simp] theorem outcome_modify (f : σ → σ) (s : σ) :
    outcome (modify f : Attempt σ PUnit) s = (.ok ⟨⟩, f s) := rfl

/-- A decision that was made elsewhere leaves the state as it is. -/
@[simp] theorem outcome_liftM (decision : Except Error α) (s : σ) :
    outcome (liftM decision : Attempt σ α) s = (decision, s) := rfl

theorem outcome_bind (attempt : Attempt σ α) (next : α → Attempt σ β) (s : σ) :
    outcome (attempt >>= next) s =
      match outcome attempt s with
      | (.ok a, s') => outcome (next a) s'
      | (.error e, s') => (.error e, s') := by
  change (match ExceptT.run attempt s with
    | (result, s') => ExceptT.bindCont next result s') = _
  unfold outcome StateT.run
  cases ExceptT.run attempt s with
  | mk result s' => cases result <;> rfl

end Attempt
end UploadInbox
