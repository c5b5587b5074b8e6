import XrPanel.Event
import XrPanel.Store.Basic

namespace XrPanel

/-- A course of store requests, each step chosen by the answers so far, with the events between
them. It is aborted where an assertion of the program fails. -/
inductive Script (α : Type) where
  | done (a : α)
  | abort
  | tell (e : Event) (next : Script α)
  | ask (r : Request) (next : Except StoreError r.Answer → Script α)

inductive Step where
  | told (e : Event)
  | asked (r : Request) (failure : Option StoreError)
  deriving DecidableEq

namespace Step

def event? : Step → Option Event
  | told e => some e
  | asked .. => none

def request? : Step → Option Request
  | asked r _ => some r
  | told _ => none

end Step

structure Transcript (α : Type) where
  result : Option α
  steps : List Step

namespace Transcript

variable {α : Type}

def cons (s : Step) (t : Transcript α) : Transcript α := { t with steps := s :: t.steps }

def events (t : Transcript α) : List Event := t.steps.filterMap Step.event?

def notices (t : Transcript α) : List Notice := t.events.filterMap Event.notice?

def requests (t : Transcript α) : List Request := t.steps.filterMap Step.request?

end Transcript

namespace Script

variable {α β : Type}

def bind : Script α → (α → Script β) → Script β
  | done a, f => f a
  | abort, _ => abort
  | tell e next, f => tell e (next.bind f)
  | ask r next, f => ask r fun a => (next a).bind f

instance : Monad Script where
  pure := done
  bind := bind

theorem bind_assoc {γ : Type} (p : Script α) (f : α → Script β) (g : β → Script γ) :
    (p.bind f).bind g = p.bind fun a => (f a).bind g := by
  induction p with
  | done a => rfl
  | abort => rfl
  | tell e next ih => simp [bind, ih]
  | ask r next ih => simp [bind, ih]

def request (r : Request) : Script (Except StoreError r.Answer) := ask r done

def event (e : Event) : Script Unit := tell e (done ())

def notify (n : Notice) : Script Unit := event (.notice n)

def log (level : LogLevel) (target message : String) : Script Unit := event (.log ⟨level, target, message⟩)

def print (text : String) : Script Unit := event (.output text)

def assert : Option α → Script α
  | some a => done a
  | none => abort

def mapEvents (f : Event → Event) : Script α → Script α
  | done a => done a
  | abort => abort
  | tell e next => tell (f e) (next.mapEvents f)
  | ask r next => ask r fun a => (next a).mapEvents f

def run {m : Type → Type} [Monad m] (store : Store m) : Script α → m (Transcript α)
  | done a => pure ⟨some a, []⟩
  | abort => pure ⟨none, []⟩
  | tell e next => do
    let t ← next.run store
    pure (t.cons (.told e))
  | ask r next => do
    let a ← store r
    let t ← (next a).run store
    let failure := match a with
      | .ok _ => none
      | .error e => some e
    pure (t.cons (.asked r failure))

end Script

end XrPanel
