import Mathlib.Data.List.Basic
import Mathlib.Tactic.Common

/-!
# A replaced file and power loss

A file that is only ever replaced as a whole. A replacement is visible at once; until the directory
is flushed a power loss may bring back any of the contents since the last flush. `Always P` says
that the content satisfies `P` whatever power loss there is, and each operation keeps it as the
lemma of its name says: a replacement has to satisfy `P` itself, a flush leaves only the visible
content to satisfy it.
-/

namespace EndpointPlatform.Lib

/-- A file, with the contents a power loss may bring back. -/
structure Leaf (α : Type*) where
  visible : α
  /-- The earlier contents that are not flushed away yet, the newest first. -/
  older : List α
  deriving Repr, DecidableEq

namespace Leaf

variable {α : Type*} {P Q : α → Prop} {f : Leaf α}

/-- The file gets another content. -/
def replace (f : Leaf α) (x : α) : Leaf α := ⟨x, f.visible :: f.older⟩

def flush (f : Leaf α) : Leaf α := ⟨f.visible, []⟩

/-- The power is lost, and one of the contents is there afterwards. -/
def lose (f : Leaf α) (n : ℕ) : Leaf α := ⟨(f.visible :: f.older).getD n f.visible, []⟩

/-- Every content there may be after a power loss satisfies the property. -/
def Always (P : α → Prop) (f : Leaf α) : Prop := ∀ x ∈ f.visible :: f.older, P x

theorem Always.visible (h : f.Always P) : P f.visible := h f.visible List.mem_cons_self

theorem Always.replace (h : f.Always P) {x : α} (hx : P x) : (f.replace x).Always P :=
  List.forall_mem_cons.mpr ⟨hx, h⟩

theorem always_flush (h : P f.visible) : f.flush.Always P := by
  intro x hx
  obtain rfl := List.mem_singleton.mp hx
  exact h

theorem Always.flush (h : f.Always P) : f.flush.Always P := always_flush h.visible

theorem Always.lose (h : f.Always P) (n : ℕ) : (f.lose n).Always P := by
  intro x hx
  obtain rfl := List.mem_singleton.mp hx
  show P ((f.visible :: f.older).getD n f.visible)
  rw [List.getD_eq_getElem?_getD]
  cases hget : (f.visible :: f.older)[n]? with
  | none => exact h.visible
  | some y => exact h y (List.mem_of_getElem? hget)

end Leaf

end EndpointPlatform.Lib
