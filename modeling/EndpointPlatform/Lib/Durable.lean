import Mathlib.Data.List.Chain
import Mathlib.Tactic.Common

/-!
# Programs over durable files

A program that reads and replaces files, one atomic replacement at a time, and that may be cut off
between any two of them. Every operation takes one answer of the outside world: go on, raise an
error before or after its effect is visible, stop the process, or a reply the operation asked for.
The state keeps the disk, the memory of the process and the trail of all disks there have been, so
that a property of every point of every run is a property of the trail.

`Triple P p Q E C` is the crash triple of a program: from a state in `P` it returns in `Q`, raises
in `E` or is cut off in `C`, whatever the answers are. The rules below follow the constructs of a
program.
-/

namespace EndpointPlatform.Lib

/-- What the outside world answers to one operation. -/
inductive Answer (ε ι : Type) where
  /-- The operation succeeds. -/
  | proceed
  /-- The operation raises; `visible` tells whether its effect is on the disk. -/
  | fail (e : ε) (visible : Bool)
  /-- The process stops before the operation. -/
  | crash
  /-- The operation succeeds with a reply. -/
  | reply (i : ι)
  deriving Repr

/-- How a program ends. -/
inductive Exit (ε α : Type) where
  | done (a : α)
  | raised (e : ε)
  | stopped
  deriving Repr

/-- The disk, the memory of the process and all disks so far, the newest first. -/
structure Traced (δ μ : Type) where
  disk : δ
  memory : μ
  trail : List δ
  deriving Repr

variable {δ μ ε ι α β : Type}

/-- The state after a replacement on the disk. -/
def Traced.put (w : Traced δ μ) (d : δ) : Traced δ μ :=
  { w with disk := d, trail := d :: w.trail }

@[simp] theorem Traced.put_disk (w : Traced δ μ) (d : δ) : (w.put d).disk = d := rfl
@[simp] theorem Traced.put_memory (w : Traced δ μ) (d : δ) : (w.put d).memory = w.memory := rfl
@[simp] theorem Traced.put_trail (w : Traced δ μ) (d : δ) : (w.put d).trail = d :: w.trail := rfl

/-- A program over files. -/
def Prog (δ μ ε ι α : Type) :=
  Traced δ μ → List (Answer ε ι) → Exit ε α × Traced δ μ × List (Answer ε ι)

namespace Prog

/-- The rest of a program after its first part. -/
def andThen (p : Prog δ μ ε ι α) (f : α → Prog δ μ ε ι β) : Prog δ μ ε ι β := fun w answers =>
  match p w answers with
  | (.done a, w, answers) => f a w answers
  | (.raised e, w, answers) => (.raised e, w, answers)
  | (.stopped, w, answers) => (.stopped, w, answers)

instance : Monad (Prog δ μ ε ι) where
  pure a := fun w answers => (.done a, w, answers)
  bind := andThen

def raise (e : ε) : Prog δ μ ε ι α := fun w answers => (.raised e, w, answers)

/-- `try: … except`: the handler may raise the error again. -/
def catching (p : Prog δ μ ε ι α) (handler : ε → Prog δ μ ε ι α) : Prog δ μ ε ι α :=
  fun w answers =>
    match p w answers with
    | (.done a, w, answers) => (.done a, w, answers)
    | (.raised e, w, answers) => handler e w answers
    | (.stopped, w, answers) => (.stopped, w, answers)

/-- `try: … finally`: the last part runs after a return and after an error, and an error of its own
takes the place of the first. -/
def ensuring (p : Prog δ μ ε ι α) (last : Prog δ μ ε ι Unit) : Prog δ μ ε ι α := do
  let a ← catching p fun e => do
    last
    raise e
  last
  return a

def recollect : Prog δ μ ε ι μ := fun w answers => (.done w.memory, w, answers)

/-- A change of the memory of the process. -/
def remember (f : μ → μ) : Prog δ μ ε ι Unit := fun w answers =>
  (.done (), { w with memory := f w.memory }, answers)

/-- The disk as it is, in a step that reads it together with what it does next. -/
def look : Prog δ μ ε ι δ := fun w answers => (.done w.disk, w, answers)

/-- An operation without an effect on the disk: the reply it gets, if any. -/
def ask : Prog δ μ ε ι (Option ι)
  | w, [] => (.done none, w, [])
  | w, .proceed :: answers => (.done none, w, answers)
  | w, .reply i :: answers => (.done (some i), w, answers)
  | w, .fail e _ :: answers => (.raised e, w, answers)
  | w, .crash :: answers => (.stopped, w, answers)

def read : Prog δ μ ε ι δ := fun w answers =>
  match ask w answers with
  | (.done _, w, answers) => (.done w.disk, w, answers)
  | (.raised e, w, answers) => (.raised e, w, answers)
  | (.stopped, w, answers) => (.stopped, w, answers)

/-- An atomic replacement on the disk. -/
def write (f : δ → δ) : Prog δ μ ε ι Unit
  | w, .fail e visible :: answers =>
    (.raised e, if visible then w.put (f w.disk) else w, answers)
  | w, .crash :: answers => (.stopped, w, answers)
  | w, answers => (.done (), w.put (f w.disk), answers.tail)

/-- Changes another process makes while this one waits. -/
def interfere (acts : List (δ → δ)) : Prog δ μ ε ι Unit := fun w answers =>
  (.done (), acts.foldl (fun w act => w.put (act w.disk)) w, answers)

/-! ## Operations whose fate is fixed in advance -/

/-- What becomes of an operation: it is done, it raises and has no effect, or the process stops
before it. -/
inductive Fate (ε : Type) where
  | done
  | fails (e : ε)
  | stops
  deriving Repr, DecidableEq

/-- An operation without an effect on the disk. -/
def meet (fate : Fate ε) : Prog δ μ ε ι Unit := fun w answers =>
  match fate with
  | .done => (.done (), w, answers)
  | .fails e => (.raised e, w, answers)
  | .stops => (.stopped, w, answers)

/-- An atomic replacement that raises only without its effect. -/
def replace (fate : Fate ε) (f : δ → δ) : Prog δ μ ε ι Unit := fun w answers =>
  match fate with
  | .done => (.done (), w.put (f w.disk), answers)
  | .fails e => (.raised e, w, answers)
  | .stops => (.stopped, w, answers)

/-! ## Crash triples -/

/-- From a state in `P` the program returns in `Q`, raises in `E` or is cut off in `C`. -/
def Triple (P : Traced δ μ → Prop) (p : Prog δ μ ε ι α) (Q : α → Traced δ μ → Prop)
    (E : ε → Traced δ μ → Prop) (C : Traced δ μ → Prop) : Prop :=
  ∀ w answers, P w →
    match p w answers with
    | (.done a, w', _) => Q a w'
    | (.raised e, w', _) => E e w'
    | (.stopped, w', _) => C w'

variable {P P' : Traced δ μ → Prop} {Q Q' : α → Traced δ μ → Prop} {R : β → Traced δ μ → Prop}
  {E F : ε → Traced δ μ → Prop} {C : Traced δ μ → Prop}

theorem Triple.pure {a : α} (h : ∀ w, P w → Q a w) :
    Triple P (pure a : Prog δ μ ε ι α) Q E C := by
  intro w answers hw
  exact h w hw

theorem Triple.bind {p : Prog δ μ ε ι α} {f : α → Prog δ μ ε ι β} (hp : Triple P p Q E C)
    (hf : ∀ a, Triple (Q a) (f a) R E C) : Triple P (p >>= f) R E C := by
  intro w answers hw
  have hfirst := hp w answers hw
  show match andThen p f w answers with
    | (.done a, w', _) => R a w'
    | (.raised e, w', _) => E e w'
    | (.stopped, w', _) => C w'
  unfold andThen
  split at hfirst
  · exact hf _ _ _ hfirst
  · exact hfirst
  · exact hfirst

theorem Triple.raise {e : ε} (h : ∀ w, P w → E e w) :
    Triple P (raise e : Prog δ μ ε ι α) Q E C := by
  intro w answers hw
  exact h w hw

theorem Triple.catching {p : Prog δ μ ε ι α} {handler : ε → Prog δ μ ε ι α}
    (hp : Triple P p Q F C) (hhandler : ∀ e, Triple (F e) (handler e) Q E C) :
    Triple P (catching p handler) Q E C := by
  intro w answers hw
  have hfirst := hp w answers hw
  unfold Prog.catching
  split at hfirst
  · exact hfirst
  · exact hhandler _ _ _ hfirst
  · exact hfirst

theorem Triple.weaken {p : Prog δ μ ε ι α} (h : Triple P' p Q' F C) (hP : ∀ w, P w → P' w)
    (hQ : ∀ a w, Q' a w → Q a w) (hE : ∀ e w, F e w → E e w) : Triple P p Q E C := by
  intro w answers hw
  have hrun := h w answers (hP w hw)
  split at hrun
  · exact hQ _ _ hrun
  · exact hE _ _ hrun
  · exact hrun

theorem Triple.strengthen {p : Prog δ μ ε ι α} (h : Triple P' p Q E C) (hP : ∀ w, P w → P' w) :
    Triple P p Q E C :=
  h.weaken hP (fun _ _ hw => hw) fun _ _ hw => hw

theorem Triple.given {p : Prog δ μ ε ι α} {H : Prop} (hH : ∀ w, P w → H)
    (h : H → Triple P p Q E C) : Triple P p Q E C := by
  intro w answers hw
  exact h (hH w hw) w answers hw

theorem Triple.any {κ : Sort*} {p : Prog δ μ ε ι α} {F : κ → Traced δ μ → Prop}
    (h : ∀ k, Triple (F k) p Q E C) : Triple (fun w => ∃ k, F k w) p Q E C := by
  rintro w answers ⟨k, hw⟩
  exact h k w answers hw

theorem Triple.ensuring {p : Prog δ μ ε ι α} {last : Prog δ μ ε ι Unit}
    (hp : Triple P p Q F C) (hreturn : ∀ a, Triple (Q a) last (fun _ => Q' a) E C)
    (herror : ∀ e, Triple (F e) last (fun _ => E e) E C) : Triple P (ensuring p last) Q' E C := by
  unfold Prog.ensuring
  refine Triple.bind (Q := Q) (Triple.catching hp fun e => ?_) fun a => ?_
  · exact Triple.bind (herror e) fun _ => Triple.raise fun w hw => hw
  · exact Triple.bind (hreturn a) fun _ => Triple.pure fun w hw => hw

theorem Triple.recollect : Triple P (recollect : Prog δ μ ε ι μ) (fun m w => P w ∧ w.memory = m) E C := by
  intro w answers hw
  exact ⟨hw, rfl⟩

theorem Triple.look : Triple P (look : Prog δ μ ε ι δ) (fun d w => P w ∧ w.disk = d) E C := by
  intro w answers hw
  exact ⟨hw, rfl⟩

theorem Triple.remember {f : μ → μ} {Q : Unit → Traced δ μ → Prop}
    (h : ∀ w, P w → Q () { w with memory := f w.memory }) :
    Triple P (remember f : Prog δ μ ε ι Unit) Q E C := by
  intro w answers hw
  exact h w hw

theorem Triple.ask (hE : ∀ e w, P w → E e w) (hC : ∀ w, P w → C w) :
    Triple P (ask : Prog δ μ ε ι (Option ι)) (fun _ => P) E C := by
  intro w answers hw
  match answers with
  | [] => exact hw
  | .proceed :: _ => exact hw
  | .reply i :: _ => exact hw
  | .fail e visible :: _ => exact hE e w hw
  | .crash :: _ => exact hC w hw

theorem Triple.read (hE : ∀ e w, P w → E e w) (hC : ∀ w, P w → C w) :
    Triple P (read : Prog δ μ ε ι δ) (fun d w => P w ∧ w.disk = d) E C := by
  intro w answers hw
  match answers with
  | [] => exact ⟨hw, rfl⟩
  | .proceed :: _ => exact ⟨hw, rfl⟩
  | .reply i :: _ => exact ⟨hw, rfl⟩
  | .fail e visible :: _ => exact hE e w hw
  | .crash :: _ => exact hC w hw

theorem Triple.write {f : δ → δ} {Q : Unit → Traced δ μ → Prop}
    (hQ : ∀ w, P w → Q () (w.put (f w.disk))) (hvisible : ∀ e w, P w → E e (w.put (f w.disk)))
    (hE : ∀ e w, P w → E e w) (hC : ∀ w, P w → C w) :
    Triple P (write f : Prog δ μ ε ι Unit) Q E C := by
  intro w answers hw
  match answers with
  | [] => exact hQ w hw
  | .proceed :: _ => exact hQ w hw
  | .reply i :: _ => exact hQ w hw
  | .fail e true :: _ => exact hvisible e w hw
  | .fail e false :: _ => exact hE e w hw
  | .crash :: _ => exact hC w hw

theorem Triple.interfere {acts : List (δ → δ)}
    (h : ∀ act ∈ acts, ∀ w, P w → P (w.put (act w.disk))) :
    Triple P (interfere acts : Prog δ μ ε ι Unit) (fun _ => P) E C := by
  intro w answers hw
  show P (acts.foldl (fun w act => w.put (act w.disk)) w)
  induction acts generalizing w with
  | nil => exact hw
  | cons act acts ih =>
    have hfirst := h act List.mem_cons_self w hw
    exact ih (fun a ha => h a (List.mem_cons_of_mem _ ha)) _ hfirst

theorem Triple.last {p : Prog δ μ ε ι α} (h : Triple P p Q E C) (hQ : ∀ a w, Q a w → C w)
    (hE : ∀ e w, E e w → C w) {w : Traced δ μ} (hw : P w) (answers : List (Answer ε ι)) :
    C (p w answers).2.1 := by
  have hrun := h w answers hw
  split at hrun
  · rename_i heq
    rw [heq]
    exact hQ _ _ hrun
  · rename_i heq
    rw [heq]
    exact hE _ _ hrun
  · rename_i heq
    rw [heq]
    exact hrun

end Prog

end EndpointPlatform.Lib
